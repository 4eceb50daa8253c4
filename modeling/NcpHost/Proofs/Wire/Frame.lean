import NcpHost.Proofs.Wire.Residue
import NcpHost.Proofs.Wire.Stuffing
import NcpHost.Wire.Frame

/-! Every frame that its control byte can carry is read back from the stuffed
bytes as it was written. -/
namespace NcpHost.Wire

/-- Numbers fit in three bits, and a reset acknowledgement is one that the
receiver accepts. -/
def Frame.Fits : Frame → Prop
  | .data number acked _ _ => number < Control.modulus ∧ acked < Control.modulus
  | .ack number | .nak number => number < Control.modulus
  | .reset => True
  | .resetAck code => code.CompletesHandshake

namespace Control

theorem exists_fin {number : UInt8} (small : number < modulus) :
    ∃ n : Fin 8, number = UInt8.ofNat n := by
  have bound : number.toNat < 8 := UInt8.lt_iff_toNat_lt.mp small
  exact ⟨⟨number.toNat, bound⟩, UInt8.ofNat_toNat.symm⟩

theorem ofByte_dataByte {number acked : UInt8} (resend : Bool)
    (numberSmall : number < modulus) (ackedSmall : acked < modulus) :
    ofByte (dataByte number acked ||| (if resend then markBit else 0)) =
      .data number acked resend := by
  obtain ⟨n, rfl⟩ := exists_fin numberSmall
  obtain ⟨a, rfl⟩ := exists_fin ackedSmall
  revert n a resend
  decide

theorem ofByte_ackByte {number : UInt8} (small : number < modulus) :
    ofByte (ackByte number) = .ack number false := by
  obtain ⟨n, rfl⟩ := exists_fin small
  revert n
  decide

theorem ofByte_nakByte {number : UInt8} (small : number < modulus) :
    ofByte (nakByte number) = .nak number false := by
  obtain ⟨n, rfl⟩ := exists_fin small
  revert n
  decide

/-- Frame number, resend bit and acknowledgement lie side by side in the byte. -/
theorem toNat_dataByte {number acked : UInt8} (resend : Bool)
    (numberSmall : number < modulus) (ackedSmall : acked < modulus) :
    (dataByte number acked ||| (if resend then markBit else 0)).toNat =
      16 * number.toNat + (if resend then 8 else 0) + acked.toNat := by
  obtain ⟨n, rfl⟩ := exists_fin numberSmall
  obtain ⟨a, rfl⟩ := exists_fin ackedSmall
  revert n a resend
  decide

theorem toNat_ackByte {number : UInt8} (small : number < modulus) :
    (ackByte number).toNat = 128 + number.toNat := by
  obtain ⟨n, rfl⟩ := exists_fin small
  revert n
  decide

theorem masked_of_lt {number : UInt8} (small : number < modulus) :
    number &&& numberMask = number := by
  obtain ⟨n, rfl⟩ := exists_fin small
  revert n
  decide

theorem masked_lt (bits : UInt8) : bits &&& numberMask < modulus := by
  rw [UInt8.lt_iff_toNat_lt, UInt8.toNat_and]
  exact Nat.lt_succ_of_le Nat.and_le_right

/-- Only the lowest three bits of each number are sent. -/
theorem dataByte_masked (number acked : UInt8) :
    dataByte (number &&& numberMask) (acked &&& numberMask) = dataByte number acked := by
  simp only [dataByte, UInt8.and_assoc, UInt8.and_self]

/-- Whatever the byte, the numbers that are read off it fit in three bits. -/
def Fits : Control → Prop
  | .data frame acked _ => frame < modulus ∧ acked < modulus
  | .ack number _ | .nak number _ => number < modulus
  | .reset | .resetAck | .error | .unknown _ => True

theorem fits_ofByte (byte : UInt8) : (ofByte byte).Fits := by
  unfold ofByte
  repeat' split
  · exact ⟨masked_lt _, masked_lt _⟩
  · trivial
  · trivial
  · trivial
  · exact masked_lt _
  · exact masked_lt _
  · trivial

end Control

namespace Frame

theorem ofBody_body {frame : Frame} (fits : frame.Fits) : ofBody frame.body = .ok frame := by
  cases frame with
  | data number acked resend payload =>
    simp only [body, ofBody, Control.ofByte_dataByte resend fits.1 fits.2,
      Whitening.whiten_whiten]
  | ack number => simp only [body, ofBody, Control.ofByte_ackByte fits]
  | nak number => simp only [body, ofBody, Control.ofByte_nakByte fits]
  | reset => rfl
  | resetAck code =>
    simp only [Fits, ResetCode.CompletesHandshake, List.mem_cons, List.not_mem_nil,
      or_false] at fits
    rcases fits with rfl | rfl | rfl <;> rfl

theorem body_ne_nil (frame : Frame) : frame.body ≠ [] := by
  cases frame <;> simp [body]

/-- The check sequence alone fills a segment. -/
theorem isEmpty_stuff_append (body : List UInt8) : (stuff (Crc.append body)).isEmpty = false := by
  have : Crc.append body ≠ [] := by simp [Crc.append, Crc.trailer]
  simpa [stuff_eq_nil] using this

/-- The receiver undoes what `encode` does, up to the closing flag. -/
theorem ofStuffed_stuff {body : List UInt8} (nonempty : body ≠ []) :
    ofStuffed (stuff (Crc.append body)) = ofBody body := by
  have long : ¬ (Crc.append body).length < 3 := by
    have := List.length_pos_iff.mpr nonempty
    rw [Crc.length_append]
    omega
  have content : (Crc.append body).take ((Crc.append body).length - 2) = body := by
    rw [Crc.length_append, Nat.add_sub_cancel, Crc.append, List.take_left]
  simp only [ofStuffed, unstuff_stuff, long, Crc.intact_append, content, if_true, if_false]

/-- Every frame is its stuffed body behind at most a cancel byte. -/
theorem wire_eq (frame : Frame) :
    frame.wire = (if frame = .reset then [cancel] else []) ++
      stuff (Crc.append frame.body) ++ [flag] := by
  cases frame <;> simp [wire, encode]

theorem length_body_data (number acked : UInt8) (resend : Bool) (payload : List UInt8) :
    (Frame.data number acked resend payload).body.length = payload.length + 1 := by
  simp [body, Whitening.whiten]

theorem body_data_masked (number acked : UInt8) (resend : Bool) (payload : List UInt8) :
    (Frame.data (number &&& Control.numberMask) (acked &&& Control.numberMask) resend
        payload).body =
      (Frame.data number acked resend payload).body := by
  simp only [body, Control.dataByte_masked]

/-- Whatever is read fits. -/
theorem fits_of_ofBody {body : List UInt8} {frame : Frame} (read : ofBody body = .ok frame) :
    frame.Fits := by
  cases body with
  | nil => cases read
  | cons first content =>
    have fits := Control.fits_ofByte first
    cases control : Control.ofByte first with
    | data number acked resend =>
      simp only [ofBody, control] at read
      rw [control] at fits
      cases read
      exact fits
    | ack number notReady | nak number notReady =>
      simp only [ofBody, control] at read
      rw [control] at fits
      cases read
      exact fits
    | reset =>
      simp only [ofBody, control] at read
      cases read
      trivial
    | resetAck =>
      simp only [ofBody, control] at read
      repeat' split at read
      · next completes =>
        cases read
        exact completes
      all_goals cases read
    | error | unknown =>
      simp only [ofBody, control] at read
      cases read

theorem fits_of_ofStuffed {stuffed : List UInt8} {frame : Frame}
    (read : ofStuffed stuffed = .ok frame) : frame.Fits := by
  unfold ofStuffed at read
  repeat' split at read
  · cases read
  · cases read
  · exact fits_of_ofBody read
  · cases read

end Frame
end NcpHost.Wire
