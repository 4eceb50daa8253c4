import Mathlib.Logic.Function.Iterate
import NcpHost.Wire.Crc

/-! The check sequence as a division of bits. A byte enters the register whole,
but the register ends as if its bits had entered one by one, most significant
first. Each step is linear in the register and the bit together, so what flipped
bits do to a frame's residue depends on the flipped bits alone. -/
namespace NcpHost.Wire

/-- The bits of a byte, most significant first. -/
def bitsOf (byte : UInt8) : List Bool :=
  (List.range 8).map byte.toBitVec.getMsbD

def bits (text : List UInt8) : List Bool :=
  text.flatMap bitsOf

/-- What arrives of `frame` when the bits set in `error` are flipped on the way. -/
def disturb (frame error : List UInt8) : List UInt8 :=
  List.zipWith (· ^^^ ·) frame error

@[simp] theorem length_bits (text : List UInt8) : (bits text).length = 8 * text.length := by
  induction text with
  | nil => rfl
  | cons byte rest ih =>
    simp only [bits, bitsOf, List.flatMap_cons, List.length_append, List.length_map,
      List.length_range, List.length_cons] at ih ⊢
    omega

theorem bitsOf_xor (one other : UInt8) :
    bitsOf (one ^^^ other) = List.zipWith (· ^^ ·) (bitsOf one) (bitsOf other) := by
  simp [bitsOf, List.zipWith_map, List.zipWith_self]

theorem bits_disturb {frame error : List UInt8} (same : error.length = frame.length) :
    bits (disturb frame error) = List.zipWith (· ^^ ·) (bits frame) (bits error) := by
  induction frame generalizing error with
  | nil => rfl
  | cons byte rest ih =>
    cases error with
    | nil => cases same
    | cons flips more =>
      have tail := ih (Nat.succ.inj same)
      simp only [disturb, bits, List.zipWith_cons_cons, List.flatMap_cons] at tail ⊢
      rw [List.zipWith_append (by simp [bitsOf]), tail, bitsOf_xor]

theorem mem_bits_of_ne_zero {text : List UInt8} (set : ∃ byte ∈ text, byte ≠ 0) :
    true ∈ bits text := by
  obtain ⟨byte, member, nonzero⟩ := set
  refine List.mem_flatMap.mpr ⟨byte, member, ?_⟩
  by_contra clear
  refine nonzero (UInt8.toBitVec_inj.mp (BitVec.eq_of_getMsbD_eq fun i inside => ?_))
  have bit : byte.toBitVec.getMsbD i ∈ bitsOf byte :=
    List.mem_map_of_mem (List.mem_range.mpr inside)
  cases value : byte.toBitVec.getMsbD i with
  | false => simp
  | true => exact absurd (value ▸ bit) clear

namespace Crc

/-- The place where a bit enters the register. -/
def top : Register := 0x8000

def place (bit : Bool) : Register := if bit then top else 0

def enter (r : Register) (bit : Bool) : Register := shift (r ^^^ place bit)

def divide (r : Register) (text : List Bool) : Register := text.foldl enter r

theorem divide_append (r : Register) (front back : List Bool) :
    divide r (front ++ back) = divide (divide r front) back :=
  List.foldl_append

theorem shift_eq (r : Register) : shift r = (r <<< 1) ^^^ (if r.msb then polynomial else 0) := by
  unfold shift
  split
  · rfl
  · exact BitVec.xor_zero.symm

theorem shift_xor (r s : Register) : shift (r ^^^ s) = shift r ^^^ shift s := by
  have taps : (if (r ^^^ s).msb then polynomial else 0) =
      (if r.msb then polynomial else 0) ^^^ (if s.msb then polynomial else 0) := by
    rw [BitVec.msb_xor]
    cases r.msb <;> cases s.msb <;> rfl
  rw [shift_eq, taps, BitVec.shiftLeft_xor_distrib, shift_eq r, shift_eq s]
  ac_rfl

/-- The taps include the lowest bit, which the register's own shift leaves
clear: nothing is lost. -/
theorem shift_eq_zero_iff {r : Register} : shift r = 0 ↔ r = 0 := by
  refine ⟨fun zero => ?_, fun zero => by rw [zero]; rfl⟩
  rw [shift_eq] at zero
  have clear : r.msb = false := by
    have low := congrArg (BitVec.getLsbD · 0) zero
    cases high : r.msb with
    | false => rfl
    | true => simp [high, polynomial] at low
  rw [clear] at zero
  apply BitVec.eq_of_getLsbD_eq
  intro i inside
  by_cases last : i = 15
  · rw [last, ← BitVec.msb_eq_getLsbD_last r, clear]
    rfl
  · have next := congrArg (BitVec.getLsbD · (i + 1)) zero
    have fits : i + 1 < 16 := by omega
    simpa [fits, BitVec.getLsbD_eq_getElem inside] using next

theorem iterate_shift_eq_zero_iff {r : Register} (count : Nat) : shift^[count] r = 0 ↔ r = 0 := by
  induction count with
  | zero => rfl
  | succ count ih => rw [Function.iterate_succ_apply', shift_eq_zero_iff, ih]

theorem place_xor (one other : Bool) : place (one ^^ other) = place one ^^^ place other := by
  cases one <;> cases other <;> rfl

theorem enter_xor (r s : Register) (one other : Bool) :
    enter (r ^^^ s) (one ^^ other) = enter r one ^^^ enter s other := by
  unfold enter
  rw [← shift_xor, place_xor]
  congr 1
  ac_rfl

theorem divide_xor (r s : Register) {text other : List Bool} (same : other.length = text.length) :
    divide (r ^^^ s) (List.zipWith (· ^^ ·) text other) = divide r text ^^^ divide s other := by
  induction text generalizing r s other with
  | nil =>
    obtain rfl := List.eq_nil_of_length_eq_zero same
    rfl
  | cons bit rest ih =>
    cases other with
    | nil => cases same
    | cons flip more =>
      have tail := ih (enter r bit) (enter s flip) (Nat.succ.inj same)
      rw [← enter_xor] at tail
      exact tail

/-- Up to sixteen bits side by side in the register, the first on top. -/
def word : List Bool → Register
  | [] => 0
  | bit :: rest => place bit ^^^ (word rest >>> 1)

theorem getMsbD_place (bit : Bool) (i : Nat) :
    (place bit).getMsbD i = (decide (i = 0) && bit) := by
  cases bit with
  | false => simp [place]
  | true =>
    by_cases inside : i < 16
    · revert i
      simp only [place, top]
      decide
    · simp [show i ≠ 0 by omega, BitVec.getMsbD, inside]

theorem getMsbD_word (text : List Bool) (i : Nat) :
    (word text).getMsbD i = (decide (i < 16) && text.getD i false) := by
  induction text generalizing i with
  | nil => simp [word]
  | cons bit rest ih =>
    rw [word, BitVec.getMsbD_xor, getMsbD_place, BitVec.getMsbD_ushiftRight]
    cases i with
    | zero => simp
    | succ i =>
      by_cases inside : i + 1 < 16
      · simp [ih, inside, Nat.lt_of_succ_lt inside]
      · simp [inside]

/-- Fewer than sixteen bits leave the top free, so a shift takes them up whole. -/
theorem shift_word {text : List Bool} (short : text.length < 16) :
    shift (word text >>> 1) = word text := by
  have clear : (word text >>> 1).msb = false := by
    simp [BitVec.msb_ushiftRight]
  rw [shift_eq, clear]
  apply BitVec.eq_of_getMsbD_eq
  intro i inside
  by_cases last : i = 15
  · subst last
    simp [getMsbD_word, List.getElem?_eq_none (Nat.le_of_lt_succ short)]
  · have fits : i + 1 < 16 := by omega
    simp [getMsbD_word, BitVec.getMsbD_shiftLeft, BitVec.getMsbD_ushiftRight, fits]

/-- No feedback reaches bits still to enter: a few of them may enter at once. -/
theorem divide_eq_iterate (r : Register) {text : List Bool} (short : text.length ≤ 16) :
    divide r text = shift^[text.length] (r ^^^ word text) := by
  induction text generalizing r with
  | nil => simp [divide, word]
  | cons bit rest ih =>
    have fits : rest.length < 16 := short
    calc divide r (bit :: rest) = divide (enter r bit) rest := rfl
      _ = shift^[rest.length] (shift (r ^^^ place bit) ^^^ word rest) := ih _ (by omega)
      _ = shift^[rest.length] (shift (r ^^^ place bit ^^^ (word rest >>> 1))) := by
        rw [shift_xor _ (word rest >>> 1), shift_word fits]
      _ = shift^[(bit :: rest).length] (r ^^^ word (bit :: rest)) := by
        rw [word, BitVec.xor_assoc]
        rfl

theorem word_bitsOf (byte : UInt8) : word (bitsOf byte) = byte.toBitVec.setWidth 16 <<< 8 := by
  apply BitVec.eq_of_getMsbD_eq
  intro i inside
  rw [getMsbD_word, BitVec.getMsbD_shiftLeft, BitVec.getMsbD_setWidth]
  by_cases inner : i < 8
  · simp [bitsOf, inside, inner]
  · simp [bitsOf, inner, BitVec.getMsbD_of_ge byte.toBitVec i (Nat.le_of_not_lt inner)]

theorem absorb_eq_divide (r : Register) (byte : UInt8) :
    absorb r byte = divide r (bitsOf byte) := by
  rw [divide_eq_iterate r (by simp [bitsOf]), word_bitsOf]
  rfl

theorem foldl_absorb_eq_divide (r : Register) (text : List UInt8) :
    text.foldl absorb r = divide r (bits text) := by
  induction text generalizing r with
  | nil => rfl
  | cons byte rest ih =>
    calc (byte :: rest).foldl absorb r = rest.foldl absorb (absorb r byte) := rfl
      _ = divide (divide r (bitsOf byte)) (bits rest) := by rw [ih, absorb_eq_divide]
      _ = divide r (bits (byte :: rest)) := (divide_append r _ _).symm

theorem checksum_eq_divide (text : List UInt8) : checksum text = divide initial (bits text) :=
  foldl_absorb_eq_divide initial text

/-- The start value drops out: only the flipped bits remain to be divided. -/
theorem checksum_disturb {frame error : List UInt8} (same : error.length = frame.length) :
    checksum (disturb frame error) = checksum frame ^^^ divide 0 (bits error) := by
  have lengths : (bits error).length = (bits frame).length := by simp [same]
  calc checksum (disturb frame error)
      = divide (initial ^^^ 0) (List.zipWith (· ^^ ·) (bits frame) (bits error)) := by
        rw [checksum_eq_divide, bits_disturb same, show initial ^^^ 0 = initial from rfl]
    _ = checksum frame ^^^ divide 0 (bits error) := by
        rw [divide_xor _ _ lengths, ← checksum_eq_divide]

/-- An intact frame stays so only under errors that divide out themselves. -/
theorem intact_disturb {frame error : List UInt8} (intact : Intact frame)
    (same : error.length = frame.length) :
    Intact (disturb frame error) ↔ divide 0 (bits error) = 0 := by
  have clean : checksum frame = 0 := intact
  simp [Intact, checksum_disturb same, clean]

end Crc
end NcpHost.Wire
