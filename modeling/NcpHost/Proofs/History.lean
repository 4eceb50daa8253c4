/-! Laws about records that grow at the end: what each entry owes to those before it, and
what has to come right after it. -/
namespace NcpHost

variable {α : Type} {law : List α → α → Prop} {entries : List α}

/-- Every entry obeys `law` against the entries before it. -/
def Lawful (law : List α → α → Prop) (entries : List α) : Prop :=
  ∀ before entry after, entries = before ++ entry :: after → law before entry

namespace Lawful

theorem nil : Lawful law ([] : List α) := by
  intro before entry after split
  simp at split

/-- A new entry answers for itself only. -/
theorem concat_iff {last : α} :
    Lawful law (entries ++ [last]) ↔ Lawful law entries ∧ law entries last := by
  constructor
  · intro lawful
    refine ⟨fun before entry after split => ?_, lawful entries last [] rfl⟩
    exact lawful before entry (after ++ [last]) (by simp [split])
  · rintro ⟨lawful, holds⟩ before entry after split
    rcases List.eq_nil_or_concat after with rfl | ⟨front, final, rfl⟩
    · obtain ⟨rfl, same⟩ := List.append_inj' split rfl
      obtain rfl := List.singleton_inj.mp same
      exact holds
    · have shape : entries ++ [last] = (before ++ entry :: front) ++ [final] := by
        simpa [List.concat_eq_append] using split
      obtain ⟨same, -⟩ := List.append_inj' shape rfl
      exact lawful before entry front same

theorem append {added : List α} (lawful : Lawful law entries)
    (each : ∀ entry ∈ added, ∀ before, law before entry) : Lawful law (entries ++ added) := by
  induction added generalizing entries with
  | nil => simpa using lawful
  | cons entry rest ih =>
    rw [← List.singleton_append, ← List.append_assoc]
    refine ih (concat_iff.mpr ⟨lawful, each entry List.mem_cons_self _⟩) ?_
    exact fun later member => each later (List.mem_cons_of_mem _ member)

/-- Records that are joined: what follows answers against all that came before. -/
theorem join {back : List α} (first : Lawful law entries)
    (second : Lawful (fun before => law (entries ++ before)) back) :
    Lawful law (entries ++ back) := by
  intro before entry after split
  rcases List.append_eq_append_iff.mp split with ⟨shown, rfl, rest⟩ | ⟨shown, same, rest⟩
  · exact second shown entry after rest
  · cases shown with
    | nil =>
      obtain rfl : entries = before := by simpa using same
      simpa using second [] entry after rest.symm
    | cons other tail =>
      obtain ⟨rfl, rfl⟩ := List.cons.inj rest
      exact first before entry tail same

theorem front {back : List α} (lawful : Lawful law (entries ++ back)) : Lawful law entries := by
  intro before entry after split
  exact lawful before entry (after ++ back) (by simp [split])

end Lawful

/-- Right after every entry that is a `sign`, given those before it, comes its sequel. -/
def Followed (sign : List α → α → Prop) (sequel : α → List α) (entries : List α) : Prop :=
  ∀ before entry after, entries = before ++ entry :: after → sign before entry →
    sequel entry <+: after

namespace Followed

variable {sign : List α → α → Prop} {sequel : α → List α} {added : List α}

theorem nil : Followed sign sequel ([] : List α) := by
  intro before entry after split
  simp at split

/-- New entries answer for themselves; what has been followed stays so. -/
theorem append (followed : Followed sign sequel entries)
    (new : ∀ before entry after, added = before ++ entry :: after →
      sign (entries ++ before) entry → sequel entry <+: after) :
    Followed sign sequel (entries ++ added) := by
  intro before entry after split isSign
  rcases List.append_eq_append_iff.mp split with ⟨shown, rfl, rest⟩ | ⟨shown, same, rest⟩
  · exact new shown entry after rest isSign
  · cases shown with
    | nil =>
      obtain rfl : entries = before := by simpa using same
      exact new [] entry after rest.symm (by simpa using isSign)
    | cons first tail =>
      obtain ⟨rfl, rfl⟩ := List.cons.inj rest
      exact (followed before entry tail same isSign).trans (List.prefix_append tail added)

theorem append_of_no_sign (followed : Followed sign sequel entries)
    (none : ∀ entry ∈ added, ∀ before, ¬ sign before entry) :
    Followed sign sequel (entries ++ added) := by
  apply followed.append
  rintro before entry after rfl isSign
  exact absurd isSign (none entry (by simp) _)

/-- One more sign, with what is to come after it. -/
theorem append_cons {entry : α} (followed : Followed sign sequel entries)
    (comes : sign entries entry → sequel entry <+: added)
    (none : ∀ other ∈ added, ∀ before, ¬ sign before other) :
    Followed sign sequel (entries ++ entry :: added) := by
  apply followed.append
  intro before other after split isSign
  cases before with
  | nil =>
    obtain ⟨rfl, rfl⟩ := List.cons.inj split
    exact comes (by simpa using isSign)
  | cons first shown =>
    obtain ⟨-, rfl⟩ := List.cons.inj split
    exact absurd isSign (none other (by simp) _)

end Followed
end NcpHost
