import NcpHost.Wire.Stuffing

/-! Stuffing is undone by unstuffing and leaves no byte that steers the line,
the escape itself apart. -/
namespace NcpHost.Wire

/-- The bytes that the receiver of a segment keeps. -/
def Plain (byte : UInt8) : Prop :=
  byte ≠ flag ∧ byte ≠ cancel ∧ byte ≠ substitute ∧ byte ≠ xon ∧ byte ≠ xoff

theorem plain_of_not_reserved {byte : UInt8} (free : byte ∉ reserved) : Plain byte := by
  simp only [reserved, List.mem_cons, List.not_mem_nil, or_false, not_or] at free
  obtain ⟨notFlag, _, notXon, notXoff, notSubstitute, notCancel⟩ := free
  exact ⟨notFlag, notCancel, notSubstitute, notXon, notXoff⟩

@[simp] theorem flip_flip (byte : UInt8) : byte ^^^ escapeBit ^^^ escapeBit = byte := by
  rw [UInt8.xor_assoc, UInt8.xor_self, UInt8.xor_zero]

/-- Flipping the escape bit leads out of the reserved values. -/
theorem plain_flip {byte : UInt8} (held : byte ∈ reserved) : Plain (byte ^^^ escapeBit) := by
  simp only [reserved, List.mem_cons, List.not_mem_nil, or_false] at held
  rcases held with rfl | rfl | rfl | rfl | rfl | rfl <;> unfold Plain <;> decide

theorem plain_stuffByte {byte sent : UInt8} (member : sent ∈ stuffByte byte) : Plain sent := by
  unfold stuffByte at member
  split at member
  · rename_i held
    simp only [List.mem_cons, List.not_mem_nil, or_false] at member
    rcases member with rfl | rfl
    · unfold Plain
      decide
    · exact plain_flip held
  · rename_i free
    obtain rfl := List.mem_singleton.mp member
    exact plain_of_not_reserved free

theorem plain_stuff (data : List UInt8) : ∀ sent ∈ stuff data, Plain sent := by
  intro sent member
  obtain ⟨byte, _, member⟩ := List.mem_flatMap.mp member
  exact plain_stuffByte member

theorem flag_not_mem_stuff (data : List UInt8) : flag ∉ stuff data :=
  fun member => (plain_stuff data flag member).1 rfl

/-- A segment ends at its first flag. -/
theorem segment_unique {first second after₁ after₂ : List UInt8} (free₁ : flag ∉ first)
    (free₂ : flag ∉ second) (same : first ++ flag :: after₁ = second ++ flag :: after₂) :
    first = second ∧ after₁ = after₂ := by
  induction first generalizing second with
  | nil =>
    cases second with
    | nil => exact ⟨rfl, (List.cons.inj same).2⟩
    | cons byte rest =>
      obtain ⟨rfl, -⟩ := List.cons.inj same
      exact absurd List.mem_cons_self free₂
  | cons byte rest ih =>
    cases second with
    | nil =>
      obtain ⟨rfl, -⟩ := List.cons.inj same
      exact absurd List.mem_cons_self free₁
    | cons other tail =>
      obtain ⟨rfl, tails⟩ := List.cons.inj same
      obtain ⟨rfl, after⟩ := ih (fun member => free₁ (List.mem_cons_of_mem _ member))
        (fun member => free₂ (List.mem_cons_of_mem _ member)) tails
      exact ⟨rfl, after⟩

theorem unstuff_cons {byte : UInt8} (plain : byte ≠ escape) (rest : List UInt8) :
    unstuff (byte :: rest) = (unstuff rest).map (byte :: ·) := by
  cases rest with
  | nil => simp [unstuff, plain, Except.map]
  | cons next rest => simp [unstuff, plain]

theorem unstuff_pair (next : UInt8) (rest : List UInt8) :
    unstuff (escape :: next :: rest) = (unstuff rest).map ((next ^^^ escapeBit) :: ·) := by
  rw [unstuff, if_pos rfl]

theorem unstuff_stuffByte (byte : UInt8) (rest : List UInt8) :
    unstuff (stuffByte byte ++ rest) = (unstuff rest).map (byte :: ·) := by
  unfold stuffByte
  split
  · simp only [List.cons_append, List.nil_append, unstuff_pair, flip_flip]
  · rename_i free
    have plain : byte ≠ escape := fun same => free (by simp [reserved, same])
    exact unstuff_cons plain rest

/-- Any data survive the line. -/
theorem unstuff_stuff (data : List UInt8) : unstuff (stuff data) = .ok data := by
  induction data with
  | nil => rfl
  | cons byte rest ih => rw [stuff_cons, unstuff_stuffByte, ih]; rfl

/-- Stuffing adds one byte for each reserved one. -/
theorem length_stuff (data : List UInt8) :
    (stuff data).length = data.length + data.countP (· ∈ reserved) := by
  induction data with
  | nil => rfl
  | cons byte rest ih =>
    rw [stuff_cons, List.length_append, ih, List.length_cons, List.countP_cons, stuffByte]
    by_cases held : byte ∈ reserved
    · simp only [held, if_true, decide_true, List.length_cons, List.length_nil]
      omega
    · simp only [held, if_false, decide_false, Bool.false_eq_true, List.length_singleton]
      omega

/-- Stuffing at most doubles. -/
theorem length_stuff_le (data : List UInt8) : (stuff data).length ≤ 2 * data.length := by
  have := @List.countP_le_length _ (· ∈ reserved) data
  rw [length_stuff]
  omega

theorem stuff_eq_nil {data : List UInt8} : stuff data = [] ↔ data = [] := by
  cases data with
  | nil => simp
  | cons byte rest =>
    have : stuffByte byte ≠ [] := by
      unfold stuffByte
      split <;> simp
    simp [this]

end NcpHost.Wire
