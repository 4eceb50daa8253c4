import Mathlib.Algebra.Ring.Parity
import NcpHost.Endpoint.Basic
import NcpHost.Proofs.Wire.Division

/-! Which errors the check sequence finds. Bits that arrive unflipped only shift
the residue of the flipped ones, and a shift never clears a residue; so a burst
is told from its own bits, and two flips from the distance between them. An odd
number of flips leaves the register with odd parity, which no shift changes. -/
namespace NcpHost.Wire
namespace Crc

theorem divide_of_not_mem {text : List Bool} (quiet : true ∉ text) (r : Register) :
    divide r text = shift^[text.length] r := by
  induction text generalizing r with
  | nil => rfl
  | cons bit rest ih =>
    obtain ⟨clear, rest_quiet⟩ := List.ne_and_not_mem_of_not_mem_cons quiet
    obtain rfl : bit = false := by simpa using Ne.symm clear
    calc divide r (false :: rest) = divide (shift r) rest := by simp [divide, enter, place]
      _ = shift^[rest.length] (shift r) := ih rest_quiet _

theorem iterate_shift_zero (count : Nat) : shift^[count] 0 = 0 :=
  (iterate_shift_eq_zero_iff count).mpr rfl

/-- Quiet stretches on both sides decide nothing. -/
theorem divide_between_quiet {front back : List Bool} (before : true ∉ front) (after : true ∉ back)
    (text : List Bool) : divide 0 (front ++ text ++ back) = 0 ↔ divide 0 text = 0 := by
  rw [divide_append, divide_append, divide_of_not_mem before, iterate_shift_zero,
    divide_of_not_mem after, iterate_shift_eq_zero_iff]

/-- Sixteen bits fit in the register side by side: none is divided away. -/
theorem not_mem_of_divide_eq_zero {text : List Bool} (short : text.length ≤ 16)
    (zero : divide 0 text = 0) : true ∉ text := by
  rw [divide_eq_iterate 0 short, iterate_shift_eq_zero_iff] at zero
  have clear : word text = 0 := by simpa using zero
  intro member
  obtain ⟨i, inside, set⟩ := List.mem_iff_getElem.mp member
  have bit := getMsbD_word text i
  rw [clear] at bit
  simp [show i < 16 by omega, inside, set] at bit

end Crc

/-- A text whose set bits lie within a window is quiet on both sides of it. -/
theorem eq_append_of_window {text : List Bool} (start width : Nat)
    (window : ∀ i (inside : i < text.length), text[i] = true → start ≤ i ∧ i < start + width) :
    ∃ front middle back, text = front ++ middle ++ back ∧ middle.length ≤ width ∧
      true ∉ front ∧ true ∉ back := by
  refine ⟨text.take start, (text.drop start).take width, text.drop (start + width), ?_,
    List.length_take_le _ _, ?_, ?_⟩
  · rw [List.append_assoc, ← List.drop_drop, List.take_append_drop, List.take_append_drop]
  · intro member
    obtain ⟨i, inside, set⟩ := List.mem_iff_getElem.mp member
    rw [List.length_take] at inside
    rw [List.getElem_take] at set
    have := window i (by omega) set
    omega
  · intro member
    obtain ⟨i, inside, set⟩ := List.mem_iff_getElem.mp member
    rw [List.length_drop] at inside
    rw [List.getElem_drop] at set
    have := window (start + width + i) (by omega) set
    omega

/-- A burst of up to sixteen bits is found in frames of any length. -/
theorem burst_detected {frame error : List UInt8} (intact : Crc.Intact frame)
    (same : error.length = frame.length) (flips : ∃ byte ∈ error, byte ≠ 0) (start : Nat)
    (burst : ∀ i (inside : i < (bits error).length), (bits error)[i] = true →
      start ≤ i ∧ i < start + 16) :
    ¬ Crc.Intact (disturb frame error) := by
  obtain ⟨front, middle, back, split, short, before, after⟩ := eq_append_of_window start 16 burst
  rw [Crc.intact_disturb intact same, split, Crc.divide_between_quiet before after]
  intro zero
  have within : true ∉ middle := Crc.not_mem_of_divide_eq_zero short zero
  have member := mem_bits_of_ne_zero flips
  rw [split] at member
  simp [before, within, after] at member

/-- Sixteen flips in a row, over two byte borders. -/
theorem burst_detected_in_reset_ack :
    Crc.Intact [0xC1, 0x02, 0x02, 0x9B, 0x7B] ∧
      ¬ Crc.Intact (disturb [0xC1, 0x02, 0x02, 0x9B, 0x7B] [0x00, 0x01, 0xFF, 0xFE, 0x00]) :=
  ⟨by decide +kernel,
    burst_detected (by decide +kernel) rfl (by decide) 15 (by decide +kernel)⟩

namespace Crc

/-- Whether an odd number of the lowest bits is set. -/
def parity (r : Register) : Nat → Bool
  | 0 => false
  | width + 1 => parity r width ^^ r.getLsbD width

theorem parity_xor (r s : Register) (width : Nat) :
    parity (r ^^^ s) width = (parity r width ^^ parity s width) := by
  induction width with
  | zero => rfl
  | succ width ih =>
    simp only [parity, ih, BitVec.getLsbD_xor]
    cases parity r width <;> cases parity s width <;> simp

theorem parity_shiftLeft (r : Register) {width : Nat} (inside : width < 16) :
    parity (r <<< 1) (width + 1) = parity r width := by
  induction width with
  | zero => simp [parity]
  | succ width ih =>
    rw [parity, ih (by omega), parity]
    simp [inside, BitVec.getLsbD_eq_getElem (Nat.lt_of_succ_lt inside)]

/-- The bit that leaves the register is made up for by the three taps. -/
theorem parity_shift (r : Register) : parity (shift r) 16 = parity r 16 := by
  have moved : parity (r <<< 1) 16 = (parity r 16 ^^ r.msb) := by
    rw [parity_shiftLeft r (by decide), BitVec.msb_eq_getLsbD_last, parity.eq_def r 16]
    simp
  have taps : parity (if r.msb then polynomial else 0) 16 = r.msb := by
    cases r.msb <;> rfl
  rw [shift_eq, parity_xor, moved, taps, Bool.xor_assoc, Bool.xor_self, Bool.xor_false]

theorem parity_enter (r : Register) (bit : Bool) :
    parity (enter r bit) 16 = (parity r 16 ^^ bit) := by
  have placed : parity (place bit) 16 = bit := by cases bit <;> rfl
  rw [enter, parity_shift, parity_xor, placed]

theorem parity_divide (r : Register) (text : List Bool) :
    parity (divide r text) 16 = (parity r 16 ^^ decide (Odd (text.count true))) := by
  induction text generalizing r with
  | nil => simp [divide]
  | cons bit rest ih =>
    have tail : parity (divide r (bit :: rest)) 16 = _ := ih (enter r bit)
    rw [tail, parity_enter]
    cases bit with
    | false => simp
    | true => simp [Nat.odd_add_one, -Nat.not_odd_iff_even]

/-- Two flips cancel when the first, shifted as far as the second, is there again. -/
theorem divide_pair {front middle back : List Bool} (before : true ∉ front)
    (between : true ∉ middle) (after : true ∉ back) :
    divide 0 (front ++ (true :: middle ++ [true]) ++ back) = 0 ↔
      shift^[middle.length + 1] top = top := by
  have first : enter 0 true = shift top := rfl
  have second (r : Register) : divide r [true] = shift (r ^^^ top) := rfl
  have entered : divide 0 (true :: middle ++ [true]) =
      shift (shift^[middle.length + 1] top ^^^ top) :=
    calc divide 0 (true :: middle ++ [true]) = divide (divide (enter 0 true) middle) [true] :=
          divide_append _ (true :: middle) _
      _ = shift (shift^[middle.length] (shift top) ^^^ top) := by
          rw [first, divide_of_not_mem between, second]
  rw [divide_between_quiet before after, entered, shift_eq_zero_iff]
  exact BitVec.xor_eq_zero_iff

theorem repeat_eq_iterate (count : Nat) (r : Register) :
    Nat.repeat shift count r = shift^[count] r := by
  induction count with
  | zero => rfl
  | succ count ih => rw [Nat.repeat, ih, Function.iterate_succ_apply']

/-- Within the longest frame no single bit comes round again. -/
theorem top_not_repeated :
    ∀ distance < 8 * (maxPayload + 3) - 1, Nat.repeat shift (distance + 1) top ≠ top := by
  decide +kernel

end Crc

theorem eq_append_of_count_two {text : List Bool} (two : text.count true = 2) :
    ∃ front middle back, text = front ++ (true :: middle ++ [true]) ++ back ∧
      true ∉ front ∧ true ∉ middle ∧ true ∉ back := by
  have member : true ∈ text := List.count_pos_iff.mp (by omega)
  obtain ⟨front, rest, rfl, before⟩ := List.eq_append_cons_of_mem member
  rw [List.count_append, List.count_cons_self, List.count_eq_zero.mpr before] at two
  have member : true ∈ rest := List.count_pos_iff.mp (by omega)
  obtain ⟨middle, back, rfl, between⟩ := List.eq_append_cons_of_mem member
  rw [List.count_append, List.count_cons_self, List.count_eq_zero.mpr between] at two
  exact ⟨front, middle, back, by simp, before, between, List.count_eq_zero.mp (by omega)⟩

theorem odd_flips_detected {frame error : List UInt8} (intact : Crc.Intact frame)
    (same : error.length = frame.length) (odd : Odd ((bits error).count true)) :
    ¬ Crc.Intact (disturb frame error) := by
  rw [Crc.intact_disturb intact same]
  intro zero
  have balance := Crc.parity_divide 0 (bits error)
  rw [zero] at balance
  simp [Crc.parity, odd] at balance

theorem pair_detected {frame error : List UInt8} (intact : Crc.Intact frame)
    (same : error.length = frame.length) (legal : frame.length ≤ maxPayload + 3)
    (two : (bits error).count true = 2) : ¬ Crc.Intact (disturb frame error) := by
  obtain ⟨front, middle, back, split, before, between, after⟩ := eq_append_of_count_two two
  have size := congrArg List.length split
  simp only [length_bits, List.length_append, List.length_cons, List.length_nil] at size
  rw [Crc.intact_disturb intact same, split, Crc.divide_pair before between after,
    ← Crc.repeat_eq_iterate]
  exact Crc.top_not_repeated middle.length (by omega)

theorem few_flips_detected {frame error : List UInt8} (intact : Crc.Intact frame)
    (same : error.length = frame.length) :
    (Odd ((bits error).count true) → ¬ Crc.Intact (disturb frame error)) ∧
      (frame.length ≤ maxPayload + 3 →
        ((bits error).count true = 2 → ¬ Crc.Intact (disturb frame error)) ∧
        (0 < (bits error).count true → (bits error).count true ≤ 3 →
          ¬ Crc.Intact (disturb frame error))) := by
  refine ⟨odd_flips_detected intact same, fun legal => ⟨pair_detected intact same legal, ?_⟩⟩
  intro some few
  by_cases two : (bits error).count true = 2
  · exact pair_detected intact same legal two
  · exact odd_flips_detected intact same (Nat.odd_iff.mpr (by omega))

/-- One, two and three flips in an ACK frame. -/
theorem few_flips_detected_in_ack :
    Crc.Intact [0x81, 0x60, 0x59] ∧
      ¬ Crc.Intact (disturb [0x81, 0x60, 0x59] [0x00, 0x10, 0x00]) ∧
      ¬ Crc.Intact (disturb [0x81, 0x60, 0x59] [0x80, 0x00, 0x01]) ∧
      ¬ Crc.Intact (disturb [0x81, 0x60, 0x59] [0x80, 0x08, 0x01]) :=
  have intact : Crc.Intact [0x81, 0x60, 0x59] := by decide +kernel
  ⟨intact,
    (few_flips_detected intact (by rfl)).1 (by decide +kernel),
    ((few_flips_detected intact (by rfl)).2 (by decide)).1 (by decide +kernel),
    ((few_flips_detected intact (by rfl)).2 (by decide)).2 (by decide +kernel) (by decide +kernel)⟩

end NcpHost.Wire
