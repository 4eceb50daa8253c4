import Mathlib.Data.List.Forall2
import NcpHost.Endpoint.Run
import NcpHost.Proofs.Endpoint.Losses

/-! What a reset leaves of the past. What an endpoint has counted decides nothing that it
does, so endpoints that differ in their counts alone go on to differ in nothing else; and
after a reset an endpoint differs from a new one in its counts alone. -/
namespace NcpHost
namespace Endpoint

namespace Outcome

/-- The same outcome with more counted. -/
def counting (outcome : Outcome) (more : Tally) : Outcome :=
  { outcome with endpoint := outcome.endpoint.counting more }

/-- To the owner of the endpoint, `outcome` is what `fresh` is, but for a count of what
went before. -/
structure Resembles (past : Tally) (outcome fresh : Outcome) : Prop where
  bytes : outcome.built.map Wire.Frame.wire = fresh.built.map Wire.Frame.wire
  signals : outcome.signals = fresh.signals
  notes : outcome.notes = fresh.notes
  sequence : outcome.endpoint.sequence = fresh.endpoint.sequence
  connected : outcome.endpoint.connected = fresh.endpoint.connected
  tally : outcome.endpoint.tally = fresh.endpoint.tally + past

theorem resembles_counting (outcome : Outcome) (past : Tally) :
    (outcome.counting past).Resembles past outcome :=
  ⟨rfl, rfl, rfl, rfl, rfl, rfl⟩

end Outcome

theorem apply_counting (endpoint : Endpoint) (more : Tally) (operation : Operation) :
    (endpoint.counting more).apply operation = (endpoint.apply operation).counting more := by
  cases operation with
  | reset | ack | data =>
    simp [apply, reset, ack, data, counting, Outcome.counting, Tally.add_def, Tally.add,
      Nat.add_right_comm]
  | rewind => rfl
  | receive bytes =>
    simp only [apply, receive_counting]
    rfl

/-- What was counted before makes no difference to a history. -/
theorem outcomes_counting (endpoint : Endpoint) (more : Tally) (history : List Operation) :
    (endpoint.counting more).outcomes history =
      (endpoint.outcomes history).map (Outcome.counting · more) := by
  induction history generalizing endpoint with
  | nil => rfl
  | cons operation later ih =>
    have first := apply_counting endpoint more operation
    have rest := ih (endpoint.apply operation).endpoint
    rw [outcomes, first]
    exact congrArg (_ :: ·) rest

/-- A reset keeps the counts and nothing else. -/
theorem apply_reset (endpoint : Endpoint) :
    endpoint.apply .reset = (apply {} .reset).counting endpoint.tally := by
  simp [apply, reset, counting, Outcome.counting, Tally.add_def, Tally.add, Nat.add_comm]

theorem outcomes_reset (endpoint : Endpoint) (later : List Operation) :
    endpoint.outcomes (.reset :: later) =
      (outcomes {} (.reset :: later)).map (Outcome.counting · endpoint.tally) := by
  rw [outcomes, apply_reset]
  exact congrArg (_ :: ·) (outcomes_counting _ endpoint.tally later)

/-- From a reset on, whatever the state it found and whatever follows, each operation
builds, signals and notes the same as on an endpoint that was new before the reset and
leaves the same numbers; the tally is ahead by what was counted before the reset. -/
theorem reset_forgets (endpoint : Endpoint) (later : List Operation) :
    List.Forall₂ (Outcome.Resembles endpoint.tally)
      (endpoint.outcomes (.reset :: later)) (outcomes {} (.reset :: later)) := by
  rw [outcomes_reset, List.forall₂_map_left_iff, List.forall₂_same]
  exact fun outcome _ => outcome.resembles_counting endpoint.tally

end Endpoint
end NcpHost
