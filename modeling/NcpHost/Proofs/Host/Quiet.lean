import NcpHost.Proofs.Host.Handlers
import NcpHost.Proofs.Link.Steps

/-! What the steps of a host add to the journal, entry by entry, and the quiet
stretches of it: nothing is put on the line that asks for an answer, and no command
joins or leaves the queue. Most of what a host does is quiet; a record of waits or of
commands reads past it. -/
namespace NcpHost

/-- Notes that do not tell of a turn to the bootloader or of a menu that could not be used. -/
def Note.IsRoutine : Note → Prop
  | .launching | .probingAfterReset _ | .leavingFailed (.noPrompt _) |
    .uploadFailed (.noPrompt _) => False
  | _ => True

/-- Entries that tell of no command and of no frame that asks for an answer. -/
def Effect.IsQuiet : Effect → Prop
  | .sent (.frame .reset) _ | .sent (.frame (.data ..)) _ | .queued _ | .answered .. => False
  | _ => True

namespace World

/-- Every entry that the second world has beyond the first satisfies `P`. -/
def Adds (P : Effect → Prop) (before after : World) : Prop :=
  ∃ added, after.journal = before.journal ++ added ∧ ∀ effect ∈ added, P effect

abbrev Quiet : World → World → Prop := Adds Effect.IsQuiet

namespace Adds

variable {P : Effect → Prop} {before after last : World}

theorem refl (world : World) : Adds P world world :=
  ⟨[], (List.append_nil _).symm, by simp⟩

theorem trans (first : Adds P before after) (second : Adds P after last) : Adds P before last := by
  obtain ⟨front, journal, each⟩ := first
  obtain ⟨back, extended, also⟩ := second
  refine ⟨front ++ back, by rw [extended, journal, List.append_assoc], ?_⟩
  intro effect member
  exact (List.mem_append.mp member).elim (each effect) (also effect)

theorem mono {Q : Effect → Prop} (adds : Adds P before after)
    (weaker : ∀ effect, P effect → Q effect) : Adds Q before after := by
  obtain ⟨added, journal, each⟩ := adds
  exact ⟨added, journal, fun effect member => weaker effect (each effect member)⟩

theorem append {entries : List Effect} (each : ∀ effect ∈ entries, P effect) :
    Adds P before { before with journal := before.journal ++ entries } :=
  ⟨entries, rfl, each⟩

theorem record {effect : Effect} (adds : Adds P before after) (holds : P effect) :
    Adds P before (after.record effect) :=
  adds.trans ⟨[effect], rfl, by simpa using holds⟩

theorem notes (adds : Adds P before after) (notes : List Note)
    (each : ∀ note ∈ notes, P (.noted note)) : Adds P before (after.notes notes) := by
  refine adds.trans ⟨notes.map .noted, rfl, ?_⟩
  intro effect member
  obtain ⟨note, own, rfl⟩ := List.mem_map.mp member
  exact each note own

theorem transmit {what : Transmission} (adds : Adds P before after)
    (sent : ∀ outcome, P (.sent what outcome)) : Adds P before (after.transmit what).2 :=
  adds.trans ⟨[.sent what (after.port.write what.bytes).1], rfl, by simpa using sent _⟩

/-- A selection that passes over the added entries is not changed by them. -/
theorem filterMap {α : Type} {select : Effect → Option α} (adds : Adds P before after)
    (passes : ∀ effect : Effect, P effect → select effect = none) :
    after.journal.filterMap select = before.journal.filterMap select := by
  obtain ⟨added, journal, each⟩ := adds
  have nothing : added.filterMap select = [] :=
    List.filterMap_eq_nil_iff.mpr fun effect member => passes effect (each effect member)
  rw [journal, List.filterMap_append, nothing, List.append_nil]

theorem countP {counts : Effect → Bool} (adds : Adds P before after)
    (passes : ∀ effect : Effect, P effect → counts effect = false) :
    after.journal.countP counts = before.journal.countP counts := by
  obtain ⟨added, journal, each⟩ := adds
  have nothing : added.countP counts = 0 := by
    apply List.countP_eq_zero.mpr
    intro effect member
    simp [passes effect (each effect member)]
  rw [journal, List.countP_append, nothing, Nat.add_zero]

end Adds
end World

namespace Endpoint

variable (endpoint : Endpoint)

theorem routine_oversized (payload : List UInt8) : ∀ note ∈ oversized payload, note.IsRoutine := by
  intro note member
  unfold oversized at member
  split at member
  · obtain rfl := List.mem_singleton.mp member
    trivial
  · cases member

theorem routine_feed (byte : UInt8) : ∀ note ∈ (endpoint.feed byte).notes, note.IsRoutine := by
  unfold feed close accept
  intro note member
  dsimp only at member
  repeat' split at member
  all_goals
    first
    | contradiction
    | obtain rfl := List.mem_singleton.mp member
      trivial

theorem routine_receive (bytes : List UInt8) :
    ∀ note ∈ (endpoint.receive bytes).notes, note.IsRoutine := by
  induction bytes generalizing endpoint with
  | nil => intro note member; cases member
  | cons byte rest ih =>
    intro note member
    rcases List.mem_append.mp member with first | later
    · exact routine_feed endpoint byte note first
    · exact ih _ note later

end Endpoint

variable {P : Effect → Prop}

namespace Link

variable (link : Link) (world : World)

theorem adds_acknowledge (sent : ∀ number outcome, P (.sent (.frame (.ack number)) outcome)) :
    World.Adds P world (link.acknowledge world).2.2 :=
  (World.Adds.refl world).transmit fun outcome => sent _ outcome

theorem adds_poll (noted : ∀ note : Note, note.IsRoutine → P (.noted note)) :
    World.Adds P world (link.poll world).2.2 := by
  rcases link.poll_cases world with same | ⟨-, -, same⟩ | ⟨-, -, same⟩
  · rw [same]
    exact .refl world
  all_goals
    rw [same]
    exact (World.Adds.refl world).record (noted _ (by trivial))

theorem adds_receive (bytes : List UInt8)
    (noted : ∀ note : Note, note.IsRoutine → P (.noted note)) (ended : P .waitEnded) :
    World.Adds P world (link.receive world bytes).2.2 := by
  rw [receive_world, List.append_assoc]
  refine .append fun effect member => ?_
  rcases List.mem_append.mp member with told | heard
  · obtain ⟨note, own, rfl⟩ := List.mem_map.mp told
    exact noted note (link.endpoint.routine_receive bytes note own)
  · obtain ⟨signal, -, seen⟩ := List.mem_filterMap.mp heard
    cases signal with
    | cancelTimer =>
      cases seen
      exact ended
    | connected =>
      cases seen
      exact noted _ (by trivial)
    | payload | ackObserved | nakObserved | ackMismatch | resetReceived => cases seen

theorem adds_reset (sent : ∀ outcome, P (.sent (.frame .reset) outcome))
    (noted : ∀ note : Note, note.IsRoutine → P (.noted note)) :
    World.Adds P world (link.reset world).2.2 := by
  have reset : World.Adds P world (world.transmit (.frame .reset)).2 :=
    (World.Adds.refl world).transmit sent
  rw [reset_eq]
  dsimp only
  split
  · exact reset.record (noted _ (by trivial))
  · exact reset

theorem adds_send (payload : List UInt8)
    (sent : ∀ outcome, P (.sent (.frame (link.endpoint.data payload).1) outcome))
    (noted : ∀ note : Note, note.IsRoutine → P (.noted note)) :
    World.Adds P world (link.send world payload).2.2 := by
  rw [send_eq]
  have told : World.Adds P world (world.notes (Endpoint.oversized payload)) :=
    (World.Adds.refl world).notes _ fun note own =>
      noted note (Endpoint.routine_oversized payload note own)
  exact told.transmit sent

end Link

namespace Bootloader.Console

variable (console : Console) (world : World)

theorem adds_poll (sent : ∀ outcome, P (.sent .probe outcome)) :
    World.Adds P world (console.poll world).2.2 := by
  unfold poll
  dsimp only
  split
  · exact (World.Adds.refl world).transmit sent
  · exact .refl world

theorem adds_choose (entry : MenuEntry) (sent : ∀ outcome, P (.sent (.choice entry) outcome))
    (noted : ∀ note : Note, note.IsRoutine → P (.noted note)) :
    World.Adds P world (console.choose world entry).2.2 := by
  have chosen : World.Adds P world (world.transmit (.choice entry)).2 :=
    (World.Adds.refl world).transmit sent
  unfold choose
  split
  · split
    · next outcome => rwa [outcome] at chosen
    · next outcome =>
      rw [outcome] at chosen
      split
      all_goals exact chosen.record (noted _ (by trivial))
  · exact .refl world

end Bootloader.Console

namespace Host

variable (host : Host)

theorem adds_setMode (mode : Mode) (changed : ∀ old new, P (.reported (.modeChanged old new))) :
    World.Adds P host.world (host.setMode mode).world := by
  rcases host.setMode_cases mode with ⟨-, same⟩ | ⟨-, moved⟩
  · rw [same]
    exact .refl _
  · rw [moved]
    exact (World.Adds.refl _).record (changed _ _)

theorem adds_enterBootloader (goal : MenuEntry) (ended : P .waitEnded)
    (handed : P (.handedOver goal)) (changed : ∀ old new, P (.reported (.modeChanged old new))) :
    World.Adds P host.world (host.enterBootloader goal).world := by
  have turned : World.Adds P host.world (host.turned goal).world :=
    ((World.Adds.refl _).record ended).record handed
  rw [enterBootloader_eq]
  dsimp only
  split
  · exact turned.trans (adds_setMode _ _ changed)
  · exact turned

theorem quiet_enterBootloader (goal : MenuEntry) :
    World.Quiet host.world (host.enterBootloader goal).world :=
  adds_enterBootloader host goal trivial trivial fun _ _ => trivial

end Host
end NcpHost
