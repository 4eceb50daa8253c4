import NcpHost.Proofs.Host.Move

/-! Everyday traffic: commands that go out, acknowledgements, what the user is told of
frames. None of it bears on who has the port, on the resets or on the mode, and the journal
shows none of the entries by which these are told. -/
namespace NcpHost

/-- Entries of everyday traffic. -/
def Effect.IsRoutine : Effect → Prop
  | .sent (.frame (.data ..)) _ | .sent (.frame (.ack _)) _ | .queued _ => True
  | .reported event => event.kind ≠ .modeChanged ∧ event.kind ≠ .adapterSilent
  | .noted note => note.IsRoutine
  | .sent .. | .received _ | .answered .. | .handedOver _ | .handedBack | .waitEnded => False

namespace Host

/-- Nothing but everyday traffic lies between the two; the timer of the link runs on, or for
a frame that an up link sent. -/
structure Routine (host host' : Host) : Prop where
  opened : host'.opened = host.opened
  active : host'.active = host.active
  console : host'.console = host.console
  mode : host'.mode = host.mode
  pendingEntry : host'.pendingEntry = host.pendingEntry
  launchPending : host'.launchPending = host.launchPending
  resetAttempts : host'.resetAttempts = host.resetAttempts
  connected : host'.link.connected = host.link.connected
  running : host'.link.timer.running = true →
    host.link.timer.running = true ∨ host.link.connected = true
  adds : World.Adds Effect.IsRoutine host.world host'.world

variable {host host' : Host}

namespace Routine

theorem refl (host : Host) : Routine host host :=
  ⟨rfl, rfl, rfl, rfl, rfl, rfl, rfl, rfl, .inl, .refl _⟩

theorem trans {last : Host} (first : Routine host host') (second : Routine host' last) :
    Routine host last where
  opened := second.opened.trans first.opened
  active := second.active.trans first.active
  console := second.console.trans first.console
  mode := second.mode.trans first.mode
  pendingEntry := second.pendingEntry.trans first.pendingEntry
  launchPending := second.launchPending.trans first.launchPending
  resetAttempts := second.resetAttempts.trans first.resetAttempts
  connected := second.connected.trans first.connected
  running runs := (second.running runs).elim first.running fun up => .inr (first.connected ▸ up)
  adds := first.adds.trans second.adds

theorem record (routine : Routine host host') {effect : Effect} (own : effect.IsRoutine) :
    Routine host (host'.record effect) :=
  routine.trans ⟨rfl, rfl, rfl, rfl, rfl, rfl, rfl, rfl, .inl, (World.Adds.refl _).record own⟩

theorem note (routine : Routine host host') {note : Note} (own : note.IsRoutine) :
    Routine host (host'.note note) :=
  routine.record (show (Effect.noted note).IsRoutine from own)

theorem attempt {undertaking : Undertaking} {result : Except HostError Unit × Host}
    (routine : Routine host result.2) : Routine host (attempt undertaking result) := by
  rcases attempt_cases undertaking result with same | ⟨error, same⟩
  · rw [same]
    exact routine
  · rw [same]
    exact routine.note trivial

/-- A host that could send before can send after it. -/
theorem canSend (routine : Routine host host') (can : host.CanSend) : host'.CanSend := by
  constructor
  · exact routine.opened.trans can.opened
  · exact routine.active.trans can.active
  · exact routine.connected.trans can.connected

theorem sendNext_idle (host : Host) : Routine host { host with waiting := false }.sendNext.2 := by
  rcases host.sendNext_idle_cases with ⟨command, later, can, oldest⟩ | ⟨-, same⟩
  · rw [sendNext_of_can host can oldest]
    refine ⟨rfl, rfl, rfl, rfl, rfl, rfl, rfl, ?_, fun _ => .inr can.connected, ?_⟩
    · rw [Link.send_eq]
      rfl
    · exact host.link.adds_send host.world _ (fun _ => trivial) fun _ own => own
  · rw [same]
    exact ⟨rfl, rfl, rfl, rfl, rfl, rfl, rfl, rfl, .inl, .refl _⟩

theorem sendNext (host : Host) : Routine host host.sendNext.2 := by
  rcases host.sendNext_cases with ⟨-, same⟩ | same
  · rw [same]
    exact refl host
  · rw [same]
    exact sendNext_idle host

theorem resend (host : Host) (undertaking : Undertaking) :
    Routine host (host.resend undertaking) :=
  (sendNext_idle host).attempt

theorem submit (host : Host) (id : UInt8) (parameters : List UInt8) :
    Routine host (host.submit id parameters).2 := by
  have queued : Routine host (host.queued { id, parameters }) :=
    ⟨rfl, rfl, rfl, rfl, rfl, rfl, rfl, rfl, .inl, (World.Adds.refl _).record trivial⟩
  rcases host.submit_cases id parameters with ⟨-, same⟩ | ⟨-, same⟩
  · rw [same]
    exact refl host
  · rw [same]
    exact queued.trans (sendNext _)

theorem acknowledge (host : Host) : Routine host host.acknowledge := by
  have acknowledged : Routine host host.acknowledged :=
    ⟨rfl, rfl, rfl, rfl, rfl, rfl, rfl, rfl, .inl,
      host.link.adds_acknowledge host.world fun _ _ => trivial⟩
  rcases host.acknowledge_cases with ⟨-, same⟩ | ⟨-, same | ⟨error, same⟩⟩
  · rw [same]
    exact refl host
  · rw [same]
    exact acknowledged
  · rw [same]
    exact acknowledged.note trivial

theorem heard (host : Host) (frame : Ezsp.Frame) : Routine host (host.heard frame) :=
  (refl host).record ⟨by simp [Event.kind], by simp [Event.kind]⟩

end Routine

/-- A payload is everyday traffic, or it settles the command in flight. -/
theorem payload_routine_or_completes (host : Host) (payload : List UInt8) :
    Routine host (host.handlePayload payload) ∨
      host.waiting = true ∧ ∃ heard response command later, Routine host heard ∧
        command.id = response.commandId ∧
        host.handlePayload payload = heard.complete response command later := by
  have acknowledged := Routine.acknowledge host
  rcases host.handlePayload_cases payload with
    ⟨error, -, same⟩ | ⟨frame, -, same | ⟨inFlight, command, later, -, matching, same⟩⟩
  · rw [same]
    exact .inl (acknowledged.note trivial)
  · rw [same]
    exact .inl ((acknowledged.trans (Routine.heard _ frame)).note trivial)
  · exact .inr ⟨inFlight, _, frame, command, later, acknowledged.trans (Routine.heard _ frame),
      matching, same⟩

theorem routine_ackTimeout (host : Host) (action : TimeoutAction) :
    Routine host (host.handleLinkEvent (.ackTimeout action)) := by
  rcases host.ackTimeout_cases action with same | ⟨-, same⟩
  · rw [same]
    exact .refl host
  · have noted : Routine host (host.note .retransmitting) := (Routine.refl host).note trivial
    have rewound : Routine (host.note .retransmitting)
        { host.note .retransmitting with link := host.link.prepareResend } :=
      ⟨rfl, rfl, rfl, rfl, rfl, rfl, rfl, rfl, .inl, .refl _⟩
    rw [same]
    exact (noted.trans rewound).trans (Routine.resend _ _)

end Host
end NcpHost
