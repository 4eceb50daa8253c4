import Mathlib.Data.List.DropRight
import Mathlib.Data.List.Infix
import NcpHost.Proofs.Bootloader.Text

/-! Where marks lie in a text: the first occurrence of one, how often it occurs, and how
much of a text in which it was not found has to be kept so that it is found later. -/
namespace NcpHost.Bootloader

/-- The first occurrence of `mark` in `text` lies between `front` and `rest`. -/
structure FirstMark (mark text front rest : List UInt8) : Prop where
  splits : text = front ++ mark ++ rest
  first : ∀ other back, text = other ++ mark ++ back → front.length ≤ other.length

/-- At how many places in `text` `mark` begins. -/
def occurrences (mark text : List UInt8) : Nat :=
  text.tails.countP fun rest => mark.isPrefixOf rest

/-- What follows the last zero byte; all of `text` if there is none. -/
def lastBlock (text : List UInt8) : List UInt8 := text.rtakeWhile (· ≠ 0)

section Marks

variable {mark text front rest more : List UInt8}

theorem after?_eq_none_iff : after? mark text = none ↔ ¬ mark <:+: text := by
  induction text with
  | nil => simp [after?]
  | cons byte tail ih =>
    rw [after?, List.infix_cons_iff, ← List.isPrefixOf_iff_prefix]
    split
    · next here => simp [here]
    · next elsewhere => simp [elsewhere, ih]

/-- What is found is the first occurrence. -/
theorem after?_first (found : after? mark text = some rest) :
    ∃ front, FirstMark mark text front rest := by
  induction text with
  | nil =>
    obtain ⟨front, splits⟩ := after?_eq_some found
    obtain ⟨rfl, rfl, rfl⟩ : front = [] ∧ mark = [] ∧ rest = [] := by simpa using splits
    exact ⟨[], rfl, fun _ _ _ => Nat.zero_le _⟩
  | cons byte tail ih =>
    by_cases here : mark <+: byte :: tail
    · rw [after?_of_start here] at found
      obtain ⟨later, same⟩ := here
      obtain rfl := Option.some.inj found
      refine ⟨[], ?_, fun _ _ _ => Nat.zero_le _⟩
      rw [← same, List.drop_left, List.nil_append]
    · rw [after?, if_neg (mt List.isPrefixOf_iff_prefix.mp here)] at found
      obtain ⟨front, splits, first⟩ := ih found
      refine ⟨byte :: front, by rw [splits]; rfl, ?_⟩
      intro other back same
      cases other with
      | nil => exact absurd ⟨back, same.symm⟩ here
      | cons _ other =>
        obtain ⟨-, same⟩ := List.cons.inj same
        exact Nat.succ_le_succ (first other back same)

theorem FirstMark.found (first : FirstMark mark text front rest) :
    after? mark text = some rest := by
  cases found : after? mark text with
  | none =>
    have within : mark <:+: text := ⟨front, rest, first.splits.symm⟩
    exact absurd within (after?_eq_none_iff.mp found)
  | some back =>
    obtain ⟨other, again⟩ := after?_first found
    have early := first.first other back again.splits
    have late := again.first front rest first.splits
    have same := first.splits.symm.trans again.splits
    rw [(List.append_inj same (by simp; omega)).2]

/-- Nothing of what follows the first occurrence is needed to find it. -/
theorem FirstMark.start (first : FirstMark mark text front rest) :
    FirstMark mark (front ++ mark) front [] := by
  refine ⟨(List.append_nil _).symm, ?_⟩
  intro other back same
  refine first.first other (back ++ rest) ?_
  rw [first.splits, same, List.append_assoc]

/-- Without its last byte, the first occurrence is none. -/
theorem FirstMark.after?_dropLast (first : FirstMark mark text front rest) (nonempty : mark ≠ []) :
    after? mark (front ++ mark.dropLast) = none := by
  rw [after?_eq_none_iff]
  rintro ⟨other, back, same⟩
  have whole : front ++ mark = other ++ mark ++ (back ++ [mark.getLast nonempty]) := by
    conv_lhs => rw [← List.dropLast_append_getLast nonempty, ← List.append_assoc, ← same]
    simp
  have early := first.start.first other _ whole
  have sizes := congrArg List.length same
  have := List.length_pos_iff.mpr nonempty
  simp only [List.length_append, List.length_dropLast] at sizes
  omega

theorem occurrences_cons (mark : List UInt8) (byte : UInt8) (text : List UInt8) :
    occurrences mark (byte :: text) =
      occurrences mark text + if mark.isPrefixOf (byte :: text) then 1 else 0 := by
  rw [occurrences, List.tails, List.countP_cons]
  rfl

theorem occurrences_eq_zero_iff : occurrences mark text = 0 ↔ ¬ mark <:+: text := by
  simp [occurrences, List.countP_eq_zero, List.infix_iff_prefix_suffix, imp_not_comm]

/-- A prompt does not overlap another one. -/
theorem occurrences_prompt (found : after? prompt text = some rest) :
    occurrences prompt text = occurrences prompt rest + 1 := by
  induction text with
  | nil => cases found
  | cons byte tail ih =>
    by_cases here : prompt <+: byte :: tail
    · rw [after?_of_start here] at found
      obtain ⟨later, same⟩ := here
      obtain rfl : later = rest := by simpa [← same] using found
      rw [← same]
      simp [occurrences_cons, prompt, List.isPrefixOf]
    · rw [← List.isPrefixOf_iff_prefix] at here
      rw [after?, if_neg here] at found
      rw [occurrences_cons, if_neg here, ih found]

/-- A mark without a zero byte does not reach over one. -/
theorem after?_append_zero (inside : 0 ∉ mark) (unmatched : after? mark text = none)
    (more : List UInt8) : after? mark (text ++ 0 :: more) = after? mark more := by
  have unmarked : ∀ text, ¬ mark <+: text → ¬ mark <+: text ++ 0 :: more := by
    intro text elsewhere here
    by_cases fits : mark.length ≤ text.length
    · exact elsewhere (List.prefix_of_prefix_length_le here (List.prefix_append _ _) fits)
    · have within : text ++ [0] <+: text ++ 0 :: more := ⟨more, by simp⟩
      have reaches : text ++ [0] <+: mark :=
        List.prefix_of_prefix_length_le within here (by simp; omega)
      exact inside (reaches.subset (by simp))
  have nowhere := after?_eq_none_iff.mp unmatched
  induction text with
  | nil =>
    have elsewhere := unmarked [] (mt List.IsPrefix.isInfix nowhere)
    rw [List.nil_append] at elsewhere ⊢
    rw [after?, if_neg (mt List.isPrefixOf_iff_prefix.mp elsewhere)]
  | cons byte tail ih =>
    rw [List.infix_cons_iff, not_or] at nowhere
    have elsewhere := unmarked _ nowhere.1
    rw [List.cons_append] at elsewhere ⊢
    rw [after?, if_neg (mt List.isPrefixOf_iff_prefix.mp elsewhere)]
    exact ih (after?_eq_none_iff.mpr nowhere.2) nowhere.2

theorem line?_skip (free : newline ∉ front) (text : List UInt8) :
    (line? (front ++ text)).map Prod.snd = (line? text).map Prod.snd := by
  rw [line?, line?, List.dropWhile_append_of_pos (decide_ne_of_not_mem free)]
  cases text.dropWhile (· ≠ newline) <;> rfl

theorem lastBlock_of_not_mem (inside : 0 ∉ text) : lastBlock text = text :=
  List.rtakeWhile_eq_self_iff.mpr (decide_ne_of_not_mem inside)

theorem lastBlock_append_zero (front text : List UInt8) :
    lastBlock (front ++ 0 :: text) = lastBlock text := by
  induction text using List.reverseRecOn with
  | nil => simp [lastBlock]
  | append_singleton text byte ih =>
    have joined : front ++ 0 :: (text ++ [byte]) = front ++ 0 :: text ++ [byte] := by simp
    rw [lastBlock] at ih
    rw [joined, lastBlock, lastBlock, List.rtakeWhile_concat, List.rtakeWhile_concat, ih]
    rfl

end Marks

/-- What remains of a text past what is waited for at a stage. -/
def Stage.rest? (stage : Stage) (text : List UInt8) : Option (List UInt8) :=
  match stage with
  | .probing => after? header text
  | .headerSeen => (line? text).map Prod.snd
  | .contentSeen | .promptSeen => after? prompt text
  | .flushing | .awaitingReceiver | .transferring => none

/-- Where that leads, and what it shows. -/
def Stage.past (stage : Stage) : Stage × List ConsoleEvent :=
  match stage with
  | .probing => (.headerSeen, [])
  | .headerSeen => (.contentSeen, [])
  | .contentSeen | .promptSeen => (.promptSeen, [.promptDetected])
  | .flushing | .awaitingReceiver | .transferring => (stage, [])

/-- What is not in a text is not in a part of it. -/
theorem Stage.rest?_of_infix {stage : Stage} {part text : List UInt8} (within : part <:+: text)
    (unmatched : stage.rest? text = none) : stage.rest? part = none := by
  cases stage with
  | flushing | awaitingReceiver | transferring => rfl
  | probing | contentSeen | promptSeen =>
    exact after?_eq_none_iff.mpr fun inside =>
      after?_eq_none_iff.mp unmatched (inside.trans within)
  | headerSeen =>
    have free := line?_eq_none_iff.mp (Option.map_eq_none_iff.mp unmatched)
    exact Option.map_eq_none_iff.mpr
      (line?_eq_none_iff.mpr fun member => free (within.subset member))

/-- With `kept` in place of `full`, whatever comes next is passed where it would be. -/
def Serves (stage : Stage) (kept full : List UInt8) : Prop :=
  ∀ more, stage.rest? (kept ++ more) = stage.rest? (full ++ more)

namespace Serves

variable {stage : Stage} {kept full front text : List UInt8}

theorem refl (stage : Stage) (text : List UInt8) : Serves stage text text := fun _ => rfl

theorem trans {between : List UInt8} (first : Serves stage kept between)
    (second : Serves stage between full) : Serves stage kept full :=
  fun more => (first more).trans (second more)

theorem append (serves : Serves stage kept full) (text : List UInt8) :
    Serves stage (kept ++ text) (full ++ text) := by
  intro more
  rw [List.append_assoc, List.append_assoc, serves]

/-- Unmatched text serves by its last bytes, if a mark fits into them. -/
theorem drop (unmatched : stage.rest? (front ++ kept) = none)
    (enough : header.length ≤ kept.length) : Serves stage kept (front ++ kept) := by
  intro more
  have shorter : prompt.length ≤ header.length := by decide
  cases stage with
  | flushing | awaitingReceiver | transferring => rfl
  | probing => exact (after?_drop unmatched (by omega) more).symm
  | headerSeen =>
    have free := line?_eq_none_iff.mp (Option.map_eq_none_iff.mp unmatched)
    rw [List.append_assoc]
    exact (line?_skip (fun member => free (List.mem_append_left _ member)) _).symm
  | contentSeen | promptSeen => exact (after?_drop unmatched (by omega) more).symm

/-- Of unmatched text that a zero byte ends, nothing is needed. -/
theorem clear (unmatched : stage.rest? text = none) : Serves stage [] (text ++ [0]) := by
  intro more
  rw [List.append_assoc]
  cases stage with
  | flushing | awaitingReceiver | transferring => rfl
  | probing => exact (after?_append_zero (by decide) unmatched more).symm
  | headerSeen =>
    have free := line?_eq_none_iff.mp (Option.map_eq_none_iff.mp unmatched)
    have ended : newline ∉ text ++ [0] := by simpa [newline] using free
    rw [← List.append_assoc]
    exact (line?_skip ended more).symm
  | contentSeen | promptSeen => exact (after?_append_zero (by decide) unmatched more).symm

theorem lastBlock (unmatched : stage.rest? text = none) :
    Serves stage (lastBlock text) text := by
  induction text using List.reverseRecOn with
  | nil => exact refl _ _
  | append_singleton text byte ih =>
    have early := Stage.rest?_of_infix (List.prefix_append text [byte]).isInfix unmatched
    rw [Bootloader.lastBlock, List.rtakeWhile_concat]
    split
    · exact (ih early).append [byte]
    · next ends =>
      obtain rfl : byte = 0 := by simpa using ends
      exact clear early

end Serves

theorem Stage.rest?_append_zero {stage : Stage} {text : List UInt8}
    (unmatched : stage.rest? text = none) : stage.rest? (text ++ [0]) = none := by
  have same := Serves.clear unmatched []
  rw [List.append_nil, List.append_nil] at same
  rw [← same]
  cases stage <;> rfl

end NcpHost.Bootloader
