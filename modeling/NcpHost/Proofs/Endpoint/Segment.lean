import NcpHost.Endpoint.Receive
import NcpHost.Proofs.Wire.Frame

/-! Reading one segment: plain bytes collect in the buffer while there is room,
and the flag hands the buffer over as one frame. -/
namespace NcpHost.Endpoint

theorem feed_plain {endpoint : Endpoint} {byte : UInt8} (plain : Wire.Plain byte)
    (room : endpoint.buffer.length < maxStuffed) :
    endpoint.feed byte =
      { endpoint := { endpoint with buffer := endpoint.buffer ++ [byte] } } := by
  obtain ⟨notFlag, notCancel, notSubstitute, notXon, notXoff⟩ := plain
  simp only [feed, notCancel, notFlag, notSubstitute, notXon, notXoff, or_self, room, if_true,
    if_false]

/-- The stuffed body of a frame that fits its control byte is that frame. -/
theorem close_body {endpoint : Endpoint} {frame : Wire.Frame} (fits : frame.Fits)
    (clean : endpoint.corrupt = false)
    (whole : endpoint.buffer = Wire.stuff (Wire.Crc.append frame.body)) :
    endpoint.close = { endpoint with buffer := [], corrupt := false }.accept frame := by
  have filled : endpoint.buffer.isEmpty = false :=
    whole ▸ Wire.Frame.isEmpty_stuff_append frame.body
  have read : Wire.Frame.ofStuffed endpoint.buffer = .ok frame := by
    rw [whole, Wire.Frame.ofStuffed_stuff frame.body_ne_nil, Wire.Frame.ofBody_body fits]
  simp only [close, clean, filled, read, Bool.false_eq_true, if_false]

/-- No DATA frame with an acceptable payload overflows the buffer, whatever has
to be stuffed. -/
theorem length_stuff_data_le {payload : List UInt8} (fits : payload.length ≤ maxPayload)
    (number acked : UInt8) (resend : Bool) :
    (Wire.stuff (Wire.Crc.append (Wire.Frame.data number acked resend payload).body)).length ≤
      maxStuffed := by
  have doubled := Wire.length_stuff_le
    (Wire.Crc.append (Wire.Frame.data number acked resend payload).body)
  rw [Wire.Crc.length_append, Wire.Frame.length_body_data] at doubled
  simp only [maxStuffed]
  omega

end NcpHost.Endpoint
