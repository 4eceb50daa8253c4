import NcpHost.Proofs.Host.Move

/-! What a host does without sending a command: the dialogue with the bootloader, and resets.
No DATA frame goes out, nothing is set in flight, and the link is as it was or starts over. -/
namespace NcpHost

/-- The number of a DATA frame handed to the port. -/
def Effect.dataNumber? : Effect → Option UInt8
  | .sent (.frame (.data number ..)) _ => some number
  | _ => none

/-- No DATA frame goes out. -/
abbrev Host.Unnumbered : World → World → Prop :=
  World.Adds fun effect => effect.dataNumber? = none

theorem World.Adds.unnumbered {before after : World} (quiet : World.Quiet before after) :
    Host.Unnumbered before after := by
  refine quiet.mono fun effect own => ?_
  cases effect with
  | received | reported | noted | handedOver | handedBack | waitEnded => rfl
  | queued | answered => exact own.elim
  | sent what =>
    cases what with
    | probe | choice => rfl
    | frame content =>
      cases content with
      | reset | data => exact own.elim
      | ack | nak | resetAck => rfl

namespace Host

structure Calm (host host' : Host) : Prop where
  waiting : host'.waiting = true → host.waiting = true
  endpoint : host'.link.endpoint = host.link.endpoint ∨ ∃ tally, host'.link.endpoint = { tally }
  adds : Unnumbered host.world host'.world

namespace Calm

variable {host host' last : Host}

theorem refl (host : Host) : Calm host host := ⟨id, .inl rfl, .refl _⟩

theorem trans (first : Calm host host') (second : Calm host' last) : Calm host last where
  waiting := first.waiting ∘ second.waiting
  endpoint := second.endpoint.elim (fun same => same ▸ first.endpoint) .inr
  adds := first.adds.trans second.adds

theorem record (calm : Calm host host') {effect : Effect} (none : effect.dataNumber? = none) :
    Calm host (host'.record effect) :=
  calm.trans ⟨id, .inl rfl, (World.Adds.refl _).record none⟩

theorem note (calm : Calm host host') (note : Note) : Calm host (host'.note note) :=
  calm.record rfl

theorem attempt {undertaking : Undertaking} {result : Except HostError Unit × Host}
    (calm : Calm host result.2) : Calm host (attempt undertaking result) := by
  rcases attempt_cases undertaking result with same | ⟨error, same⟩
  · rw [same]
    exact calm
  · rw [same]
    exact calm.note _

theorem setMode (calm : Calm host host') (mode : Mode) : Calm host (host'.setMode mode) := by
  refine calm.trans ⟨?_, .inl ?_, adds_setMode host' mode fun _ _ => rfl⟩
  all_goals rw [setMode_eq]
  exact id

theorem sendReset (calm : Calm host host') : Calm host host'.sendReset.2 := by
  rcases host'.sendReset_cases with ⟨-, same⟩ | ⟨-, same⟩
  · rw [same]
    exact calm
  · rw [same]
    refine calm.trans ⟨fun running => absurd running Bool.false_ne_true, .inr ?_,
      host'.link.adds_reset host'.world (fun _ => rfl) fun _ _ => rfl⟩
    rw [restarted, Link.reset_eq]
    exact ⟨_, rfl⟩

theorem tried (host : Host) (entry : MenuEntry) : Calm host (host.tried entry) :=
  ⟨id, .inl rfl, host.console.adds_choose host.world entry (fun _ => rfl) fun _ _ => rfl⟩

theorem leaveBootloader (host : Host) : Calm host host.leaveBootloader := by
  have chosen := tried host .run
  rcases host.leaveBootloader_cases with ⟨-, same⟩ | ⟨-, ⟨error, -, same⟩ | ⟨-, same⟩⟩
  · rw [same]
    exact refl host
  · rw [same]
    exact chosen.note _
  · have back : Calm host (host.tried .run).handedBack :=
      chosen.trans ⟨id, .inl rfl, (World.Adds.refl _).record rfl⟩
    rw [same]
    exact (back.setMode .application).sendReset.attempt

theorem startUpload (host : Host) : Calm host host.startUpload := by
  have chosen := tried host .upload
  rcases host.startUpload_cases with ⟨-, same⟩ | ⟨-, ⟨error, -, same⟩ | ⟨-, same⟩⟩
  · rw [same]
    exact refl host
  · rw [same]
    exact chosen.note _
  · rw [same]
    exact chosen.setMode .upgrading

/-- Nothing that the console reports sends a command. -/
theorem foldl_handleConsoleEvent (events : List Bootloader.ConsoleEvent) (host : Host) :
    Calm host (events.foldl handleConsoleEvent host) := by
  induction events generalizing host with
  | nil => exact refl host
  | cons event later ih =>
    refine trans ?_ (ih _)
    cases event with
    | transferReady => exact (refl host).record rfl
    | promptDetected =>
      have prompted : Calm host host.prompted := ⟨id, .inl rfl, (World.Adds.refl _).record rfl⟩
      rcases host.prompt_cases with ⟨-, same⟩ | ⟨-, same⟩ | ⟨-, same⟩
      · rw [same]
        exact prompted.trans (leaveBootloader _)
      · rw [same]
        exact prompted.trans (startUpload _)
      · rw [same]
        exact prompted

end Calm
end Host
end NcpHost
