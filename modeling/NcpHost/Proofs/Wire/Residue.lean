import Mathlib.Data.List.Basic
import NcpHost.Proofs.Wire.Division

/-! The two bytes that close a frame. Side by side they fill the register, the high
byte on top, and meet there what the bytes before them left. The shifts that follow
lose nothing, so the register ends at zero exactly if the two were the same. -/
namespace NcpHost.Wire
namespace Crc

theorem word_bits_pair (high low : UInt8) :
    word (bits [high, low]) = high.toBitVec ++ low.toBitVec := by
  apply BitVec.eq_of_getMsbD_eq
  intro i inside
  rw [getMsbD_word, BitVec.getMsbD_append]
  by_cases first : i < 8
  · simp [bits, bitsOf, inside, first, Nat.not_le.mpr first]
  · simp [bits, bitsOf, inside, Nat.not_lt.mp first]

/-- The residue is zero exactly if the register held the last two bytes before them. -/
theorem intact_pair_iff (front : List UInt8) (high low : UInt8) :
    Intact (front ++ [high, low]) ↔ checksum front = high.toBitVec ++ low.toBitVec := by
  rw [Intact, checksum_append, foldl_absorb_eq_divide, divide_eq_iterate _ (by simp),
    iterate_shift_eq_zero_iff, word_bits_pair]
  exact BitVec.xor_eq_zero_iff

theorem trailer_append (high low : UInt8) :
    trailer (high.toBitVec ++ low.toBitVec) = [high, low] := by
  rw [trailer, BitVec.extractLsb'_append_eq_left, BitVec.extractLsb'_append_eq_right]

/-- Every value of the register is sent as some two bytes. -/
theorem exists_trailer (r : Register) :
    ∃ high low : UInt8, r = high.toBitVec ++ low.toBitVec ∧ trailer r = [high, low] := by
  have halves : r.extractLsb' 8 8 ++ r.extractLsb' 0 8 = r :=
    (BitVec.extractLsb'_append_extractLsb'_eq_extractLsb' rfl).trans BitVec.extractLsb'_eq_self
  exact ⟨.ofBitVec (r.extractLsb' 8 8), .ofBitVec (r.extractLsb' 0 8), halves.symm, rfl⟩

theorem trailer_eq_iff {r : Register} {high low : UInt8} :
    trailer r = [high, low] ↔ r = high.toBitVec ++ low.toBitVec := by
  constructor
  · intro sent
    obtain ⟨top, bottom, held, same⟩ := exists_trailer r
    cases same.symm.trans sent
    exact held
  · rintro rfl
    exact trailer_append high low

/-- The high byte counts 256 times. -/
theorem toNat_append (high low : UInt8) :
    (high.toBitVec ++ low.toBitVec).toNat = 256 * high.toNat + low.toNat := by
  have small : low.toBitVec.toNat < 2 ^ 8 := low.toBitVec.isLt
  rw [BitVec.toNat_append, ← Nat.shiftLeft_add_eq_or_of_lt small, Nat.shiftLeft_eq, Nat.mul_comm]
  rfl

/-- What the sender appends is what the receiver's test asks for. -/
theorem intact_append (frame : List UInt8) : Intact (append frame) := by
  obtain ⟨high, low, held, sent⟩ := exists_trailer (checksum frame)
  rw [append, sent]
  exact (intact_pair_iff frame high low).mpr held

@[simp] theorem length_append (frame : List UInt8) :
    (append frame).length = frame.length + 2 := by
  simp [append, trailer]

theorem exists_last_two {frame : List UInt8} (long : 2 ≤ frame.length) :
    ∃ front high low, frame = front ++ [high, low] := by
  have two : (frame.drop (frame.length - 2)).length = 2 := by
    rw [List.length_drop]
    omega
  obtain ⟨high, low, last⟩ := List.length_eq_two.mp two
  exact ⟨_, high, low, by rw [← last, List.take_append_drop]⟩

/-- The test accepts exactly the frames that end in their own check sequence: the last
two bytes, the high one first, are the checksum of all before them. -/
theorem intact_iff_own_trailer {frame : List UInt8} (long : 2 ≤ frame.length) :
    (Intact frame ↔ frame = append (frame.take (frame.length - 2))) ∧
    ∃ front high low, frame = front ++ [high, low] ∧
      (Intact frame ↔ (checksum front).toNat = 256 * high.toNat + low.toNat) := by
  obtain ⟨front, high, low, rfl⟩ := exists_last_two long
  have body : (front ++ [high, low]).take ((front ++ [high, low]).length - 2) = front := by simp
  have residue := intact_pair_iff front high low
  rw [body]
  refine ⟨?_, front, high, low, rfl, ?_⟩
  · calc Intact (front ++ [high, low])
        ↔ trailer (checksum front) = [high, low] := residue.trans trailer_eq_iff.symm
      _ ↔ front ++ [high, low] = append front :=
        (List.append_right_inj front).symm.trans eq_comm
  · rw [residue, ← toNat_append, BitVec.toNat_inj]

/-- The check sequence of a reset acknowledgement, and its bytes the other way round. -/
theorem intact_iff_own_trailer_in_reset_ack :
    2 ≤ [(0xC1 : UInt8), 0x02, 0x02, 0x9B, 0x7B].length ∧
      Intact [0xC1, 0x02, 0x02, 0x9B, 0x7B] ∧ ¬ Intact [0xC1, 0x02, 0x02, 0x7B, 0x9B] := by
  have own : append [0xC1, 0x02, 0x02] = [0xC1, 0x02, 0x02, 0x9B, 0x7B] := by decide +kernel
  refine ⟨by decide, ?_, ?_⟩
  · exact (intact_iff_own_trailer (by decide)).1.mpr own.symm
  · intro intact
    have same := (intact_iff_own_trailer (by decide)).1.mp intact
    exact absurd (same.trans own) (by decide)

end Crc
end NcpHost.Wire
