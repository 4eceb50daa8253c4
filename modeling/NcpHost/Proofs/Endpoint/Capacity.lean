import NcpHost.Proofs.Endpoint.Losses
import NcpHost.Proofs.Endpoint.Segment

/-! How long a DATA frame may be. The receiver keeps `maxStuffed` bytes of a segment;
what a frame takes depends on the bytes that have to be escaped once the payload is
whitened, and for an acceptable payload they always fit. -/
namespace NcpHost

namespace Wire

theorem standing_of_plain {segment : List UInt8} (plain : ∀ byte ∈ segment, Plain byte) :
    standing segment = segment := by
  refine List.rtakeWhile_eq_self_iff.mpr fun byte member => ?_
  simpa using (plain byte member).2.1

theorem content_of_plain {segment : List UInt8} (plain : ∀ byte ∈ segment, Plain byte) :
    content segment = segment := by
  rw [content, standing_of_plain plain, List.filter_eq_self]
  intro byte member
  obtain ⟨-, -, notSubstitute, notXon, notXoff⟩ := plain byte member
  simp [notSubstitute, notXon, notXoff]

end Wire

namespace Endpoint

variable {receiver : Endpoint}

/-- Plain bytes are lost only for their number. -/
theorem spoilt_iff_of_plain {segment : List UInt8} (plain : ∀ byte ∈ segment, Wire.Plain byte) :
    Spoilt segment ↔ maxStuffed < segment.length := by
  rw [Spoilt, Wire.standing_of_plain plain, Wire.content_of_plain plain]
  exact or_iff_right fun member => (plain _ member).2.2.1 rfl

theorem receive_segment (clear : receiver.Clear) {segment : List UInt8}
    (inside : Wire.flag ∉ segment) :
    (receiver.receive (segment ++ [Wire.flag])).signals = (receiver.readSegment segment).signals ∧
      (receiver.receive (segment ++ [Wire.flag])).endpoint =
        (receiver.readSegment segment).endpoint := by
  have grown := (receive_within receiver [] inside).1
  rw [clear.within_nil, List.nil_append] at grown
  obtain ⟨signals, endpoint⟩ : _ ∧ _ := receive_closing inside
  rw [grown, close_within clear] at signals endpoint
  exact ⟨signals, endpoint⟩

/-- A stuffed body that fits is read as the frame it was made from. -/
theorem readSegment_body {frame : Wire.Frame} (fits : frame.Fits)
    (short : (Wire.stuff (Wire.Crc.append frame.body)).length ≤ maxStuffed) :
    receiver.readSegment (Wire.stuff (Wire.Crc.append frame.body)) = receiver.accept frame := by
  have plain := Wire.plain_stuff (Wire.Crc.append frame.body)
  have whole : ¬ Spoilt (Wire.stuff (Wire.Crc.append frame.body)) :=
    (spoilt_iff_of_plain plain).not.mpr (Nat.not_lt.mpr short)
  simp only [readSegment, whole, Wire.content_of_plain plain, Wire.Frame.isEmpty_stuff_append,
    Bool.false_eq_true, if_false, Wire.Frame.ofStuffed_stuff frame.body_ne_nil,
    Wire.Frame.ofBody_body fits]

/-- Every byte of an acceptable frame may have to be stuffed. -/
theorem length_stuff_framed_le {payload : List UInt8} (acceptable : payload.length ≤ maxPayload)
    (control : UInt8) (check : Wire.Crc.Register) :
    (Wire.stuff (control :: Wire.Whitening.whiten payload ++ Wire.Crc.trailer check)).length ≤
      maxStuffed := by
  have doubled := Wire.length_stuff_le
    (control :: Wire.Whitening.whiten payload ++ Wire.Crc.trailer check)
  have length : (control :: Wire.Whitening.whiten payload ++ Wire.Crc.trailer check).length =
      1 + payload.length + 2 := by
    simp [Wire.Whitening.whiten, Wire.Crc.trailer]
    omega
  rw [length] at doubled
  simp only [maxStuffed]
  omega

theorem le_length_stuff_data (sender : Endpoint) (payload : List UInt8) :
    payload.length + 3 ≤ (Wire.stuff (Wire.Crc.append (sender.data payload).1.body)).length := by
  have length : (sender.data payload).1.body.length = payload.length + 1 :=
    Wire.Frame.length_body_data ..
  rw [Wire.length_stuff, Wire.Crc.length_append, length]
  omega

/-- A DATA frame is read exactly if its stuffed bytes fit; otherwise it is lost and
counted once, and nothing else changes. Every acceptable payload fits. -/
theorem data_read_iff_it_fits (sender receiver : Endpoint) (clear : receiver.Clear)
    (payload : List UInt8) :
    let frame := (sender.data payload).1
    let stuffed := Wire.stuff (Wire.Crc.append frame.body)
    let acked := sender.sequence.ackToSend &&& Wire.Control.numberMask
    let expected := receiver.sequence.expectedAck
    let intake := receiver.receive frame.wire
    frame.wire = stuffed ++ [Wire.flag] ∧
    (stuffed.length ≤ maxStuffed → intake.signals =
      [if acked = expected then .cancelTimer else .ackMismatch expected acked,
        .payload payload]) ∧
    (maxStuffed < stuffed.length → intake.signals = [] ∧
      intake.endpoint = { receiver with
        tally.framingErrors := receiver.tally.framingErrors + 1 }) ∧
    (payload.length ≤ maxPayload → stuffed.length ≤ maxStuffed ∧
      ∀ control check, (Wire.stuff (control :: Wire.Whitening.whiten payload ++
        Wire.Crc.trailer check)).length ≤ maxStuffed) := by
  intro frame stuffed acked expected intake
  have wire : frame.wire = stuffed ++ [Wire.flag] := rfl
  obtain ⟨signals, endpoint⟩ :
      intake.signals = (receiver.readSegment stuffed).signals ∧
        intake.endpoint = (receiver.readSegment stuffed).endpoint := by
    have inside := Wire.flag_not_mem_stuff (Wire.Crc.append frame.body)
    exact receive_segment clear inside
  refine ⟨wire, ?_, ?_, ?_⟩
  · intro short
    let read : Wire.Frame :=
      .data (sender.sequence.nextFrame &&& Wire.Control.numberMask) acked sender.resendNext payload
    have same : stuffed = Wire.stuff (Wire.Crc.append read.body) := by
      rw [Wire.Frame.body_data_masked]
      rfl
    have fits : read.Fits := ⟨Wire.Control.masked_lt _, Wire.Control.masked_lt _⟩
    rw [same] at short
    rw [signals, same, readSegment_body fits short]
    by_cases met : acked = expected
    · simp only [accept, read, expected, met, if_true]
    · simp only [accept, read, expected, met, if_false]
  · intro long
    have spoilt : Spoilt stuffed := (spoilt_iff_of_plain (Wire.plain_stuff _)).mpr long
    rw [signals, endpoint, readSegment, if_pos spoilt]
    exact ⟨rfl, rfl⟩
  · intro acceptable
    exact ⟨length_stuff_framed_le acceptable _ _, length_stuff_framed_le acceptable⟩

/-- A payload of one byte comes through; one of 260 bytes is lost, whatever they are
whitened to. -/
theorem data_read_iff_it_fits_short_and_long :
    (receive {} (data {} [0x25]).1.wire).signals = [.cancelTimer, .payload [0x25]] ∧
      (receive {} (data {} (List.replicate 260 0)).1.wire).signals = [] ∧
      (receive {} (data {} (List.replicate 260 0)).1.wire).endpoint.tally.framingErrors = 1 := by
  have clear : Clear {} := ⟨rfl, rfl⟩
  obtain ⟨-, short, -, fits⟩ := data_read_iff_it_fits {} {} clear [0x25]
  obtain ⟨-, -, long, -⟩ := data_read_iff_it_fits {} {} clear (List.replicate 260 0)
  have many := le_length_stuff_data {} (List.replicate 260 0)
  rw [List.length_replicate] at many
  obtain ⟨nothing, counted⟩ := long (Nat.lt_of_lt_of_le (by decide) many)
  exact ⟨short (fits (by decide)).1, nothing, by rw [counted]⟩

end Endpoint
end NcpHost
