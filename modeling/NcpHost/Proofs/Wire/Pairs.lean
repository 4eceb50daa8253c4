import Mathlib.Algebra.Ring.Parity
import Mathlib.Data.List.DropRight
import NcpHost.Proofs.Wire.Stuffing

/-! Which texts stuffing writes, and which texts cannot be unstuffed. Whether an escape
starts a pair hangs on all that stands before it. But any other byte ends what it stands
in, so the escapes of a run pair up from its left end, and the last one of a text is left
over exactly if the run has an odd length. -/
namespace NcpHost.Wire

/-- Whether `text`, read from the left, ends in an escape that starts a pair. An escape
that is the second byte of a pair starts none. -/
def opensPair (text : List UInt8) : Bool :=
  text.foldl (fun opened byte => !opened && byte == escape) false

/-- Only bytes that may stand in a segment, and no escape but where one is needed: each
that starts a pair is followed by the other form of a reserved byte. -/
structure Canonical (text : List UInt8) : Prop where
  plain : ∀ byte ∈ text, Plain byte
  paired : ∀ front back, text = front ++ escape :: back → opensPair front = false →
    ∃ next rest, back = next :: rest ∧ next ^^^ escapeBit ∈ reserved

/-- A text is read a byte or a pair at a time; at its end an escape may stand alone. -/
@[elab_as_elim]
theorem pair_induction {motive : List UInt8 → Prop} (text : List UInt8) (nil : motive [])
    (single : ∀ byte rest, byte ≠ escape → motive rest → motive (byte :: rest))
    (dangling : motive [escape])
    (pair : ∀ next rest, motive rest → motive (escape :: next :: rest)) : motive text := by
  induction text using unstuff.induct with
  | case1 => exact nil
  | case2 => exact dangling
  | case3 byte other => exact single byte [] other nil
  | case4 next rest ih => exact pair next rest ih
  | case5 byte next rest other ih => exact single byte (next :: rest) other ih

theorem opensPair_concat (text : List UInt8) (byte : UInt8) :
    opensPair (text ++ [byte]) = (!opensPair text && byte == escape) := by
  simp [opensPair]

theorem opensPair_cons {byte : UInt8} (other : byte ≠ escape) (text : List UInt8) :
    opensPair (byte :: text) = opensPair text := by
  simp [opensPair, beq_false_of_ne other]

theorem opensPair_pair (next : UInt8) (text : List UInt8) :
    opensPair (escape :: next :: text) = opensPair text := by
  simp [opensPair]

/-- The escapes at the end pair up but for one exactly if their number is odd. -/
theorem opensPair_iff_odd (text : List UInt8) :
    opensPair text = true ↔ Odd (text.rtakeWhile (· = escape)).length := by
  induction text using List.reverseRecOn with
  | nil => simp [opensPair]
  | append_singleton front byte ih =>
    rw [opensPair_concat, List.rtakeWhile_concat]
    by_cases same : byte = escape
    · simp [same, Nat.odd_add_one, ← ih]
    · simp [same]

theorem unstuff_eq_error_iff (text : List UInt8) :
    unstuff text = .error .danglingEscape ↔ opensPair text = true := by
  induction text using pair_induction with
  | nil => simp [unstuff, opensPair]
  | single byte rest other ih =>
    rw [unstuff_cons other, opensPair_cons other, ← ih]
    cases unstuff rest <;> simp [Except.map]
  | dangling => exact iff_of_true rfl rfl
  | pair next rest ih =>
    rw [unstuff_pair, opensPair_pair, ← ih]
    cases unstuff rest <;> simp [Except.map]

theorem canonical_nil : Canonical [] where
  plain := by simp
  paired := by simp

theorem canonical_cons_iff {byte : UInt8} (other : byte ≠ escape) {rest : List UInt8} :
    Canonical (byte :: rest) ↔ Plain byte ∧ Canonical rest := by
  constructor
  · intro canonical
    obtain ⟨first, others⟩ := List.forall_mem_cons.mp canonical.plain
    refine ⟨first, others, fun front back split closed => ?_⟩
    apply canonical.paired (byte :: front) back (by rw [split]; rfl)
    rwa [opensPair_cons other]
  · rintro ⟨first, canonical⟩
    refine ⟨List.forall_mem_cons.mpr ⟨first, canonical.plain⟩, fun front back split closed => ?_⟩
    cases front with
    | nil => exact absurd (List.cons.inj split).1 other
    | cons own front =>
      obtain ⟨rfl, behind⟩ := List.cons.inj split
      rw [opensPair_cons other] at closed
      exact canonical.paired front back behind closed

theorem not_canonical_escape : ¬ Canonical [escape] := by
  intro canonical
  obtain ⟨next, rest, nothing, -⟩ := canonical.paired [] [] rfl rfl
  cases nothing

theorem plain_of_flip {next : UInt8} (held : next ^^^ escapeBit ∈ reserved) : Plain next := by
  have plain := plain_flip held
  rwa [flip_flip] at plain

theorem canonical_pair_iff {next : UInt8} {rest : List UInt8} :
    Canonical (escape :: next :: rest) ↔ next ^^^ escapeBit ∈ reserved ∧ Canonical rest := by
  constructor
  · intro canonical
    obtain ⟨-, others⟩ := List.forall_mem_cons.mp canonical.plain
    obtain ⟨second, more, same, held⟩ := canonical.paired [] (next :: rest) rfl rfl
    cases same
    refine ⟨held, (List.forall_mem_cons.mp others).2, fun front back split closed => ?_⟩
    apply canonical.paired (escape :: next :: front) back (by rw [split]; rfl)
    rwa [opensPair_pair]
  · rintro ⟨held, canonical⟩
    have first : Plain escape := by
      unfold Plain
      decide
    have plain := List.forall_mem_cons.mpr ⟨plain_of_flip held, canonical.plain⟩
    refine ⟨List.forall_mem_cons.mpr ⟨first, plain⟩, fun front back split closed => ?_⟩
    rcases front with _ | ⟨opening, _ | ⟨second, front⟩⟩
    · exact ⟨next, rest, (List.cons.inj split).2.symm, held⟩
    · -- The byte before the rest is the escape that starts the pair.
      obtain ⟨rfl, -⟩ := List.cons.inj split
      cases closed
    · obtain ⟨rfl, others⟩ := List.cons.inj split
      obtain ⟨rfl, behind⟩ := List.cons.inj others
      rw [opensPair_pair] at closed
      exact canonical.paired front back behind closed

theorem canonical_stuff (data : List UInt8) : Canonical (stuff data) := by
  induction data with
  | nil => exact canonical_nil
  | cons byte rest ih =>
    rw [stuff_cons, stuffByte]
    by_cases held : byte ∈ reserved
    · rw [if_pos held]
      exact canonical_pair_iff.mpr ⟨by rwa [flip_flip], ih⟩
    · have other : byte ≠ escape := fun same => held (by simp [reserved, same])
      rw [if_neg held]
      exact (canonical_cons_iff other).mpr ⟨plain_of_not_reserved held, ih⟩

/-- Canonical text is read back to the data that it stuffs. -/
theorem unstuff_of_canonical {text : List UInt8} (canonical : Canonical text) :
    ∃ data, unstuff text = .ok data ∧ stuff data = text := by
  induction text using pair_induction with
  | nil => exact ⟨[], rfl, rfl⟩
  | single byte rest other ih =>
    obtain ⟨first, later⟩ := (canonical_cons_iff other).mp canonical
    obtain ⟨data, read, written⟩ := ih later
    have free : byte ∉ reserved := by
      obtain ⟨notFlag, notCancel, notSubstitute, notXon, notXoff⟩ := first
      simp [reserved, notFlag, other, notXon, notXoff, notSubstitute, notCancel]
    refine ⟨byte :: data, ?_, ?_⟩
    · rw [unstuff_cons other, read]
      rfl
    · rw [stuff_cons, stuffByte, if_neg free, written]
      rfl
  | dangling => exact absurd canonical not_canonical_escape
  | pair next rest ih =>
    obtain ⟨held, later⟩ := canonical_pair_iff.mp canonical
    obtain ⟨data, read, written⟩ := ih later
    refine ⟨(next ^^^ escapeBit) :: data, ?_, ?_⟩
    · rw [unstuff_pair, read]
      rfl
    · rw [stuff_cons, stuffByte, if_pos held, flip_flip, written]
      rfl

/-- An escape that was not needed is read as well, but would not be written again. -/
example : unstuff [escape, 0x41] = .ok [0x61] ∧ stuff [0x61] = [0x61] := ⟨rfl, rfl⟩

/-- Data come back from stuffing, which keeps the five bytes that steer a segment off the
line. What stuffing writes is exactly the canonical text, which stuffing what was read of
it gives again; and unreadable is exactly what ends in an odd number of escapes. -/
theorem stuffing_round_trips (data text : List UInt8) :
    (unstuff (stuff data) = .ok data ∧ ∀ byte ∈ stuff data, Plain byte) ∧
    ((∃ source, text = stuff source) ↔ Canonical text) ∧
    (Canonical text → ∃ source, unstuff text = .ok source ∧ stuff source = text) ∧
    (unstuff text = .error .danglingEscape ↔ Odd (text.rtakeWhile (· = escape)).length) := by
  refine ⟨⟨unstuff_stuff data, plain_stuff data⟩, ?_, unstuff_of_canonical, ?_⟩
  · constructor
    · rintro ⟨source, rfl⟩
      exact canonical_stuff source
    · intro canonical
      obtain ⟨source, -, written⟩ := unstuff_of_canonical canonical
      exact ⟨source, written.symm⟩
  · exact (unstuff_eq_error_iff text).trans (opensPair_iff_odd text)

end NcpHost.Wire
