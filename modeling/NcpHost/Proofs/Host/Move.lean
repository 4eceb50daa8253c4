import NcpHost.Host.Run
import NcpHost.Proofs.Host.Quiet

/-! What a host can do in one indivisible move, with the conditions under which it
does it. Every operation is a sequence of moves, whatever arrives and however the
port behaves, so what every move preserves holds after every history. Moves are told
apart by the engine for which bytes came last: a payload is answered on behalf of the
link, even when the port has changed hands since the bytes came. -/
namespace NcpHost

/-- Entries of the journal that go with no other change of the host. Packets are not for the
host to report. -/
def Effect.IsRemark : Effect → Prop
  | .noted _ => True
  | .reported event => event.kind ≠ .modeChanged ∧ event.kind ≠ .packet
  | _ => False

theorem Effect.IsRemark.isQuiet {effect : Effect} (isRemark : effect.IsRemark) :
    effect.IsQuiet := by
  cases effect with
  | noted | reported => trivial
  | received | sent | queued | answered | handedOver | handedBack | waitEnded => exact isRemark.elim

namespace Host

/-- A command can go out: the port is the link's and the link is up. -/
structure CanSend (host : Host) : Prop where
  opened : host.opened = true
  active : host.active = .link
  connected : host.link.connected = true

inductive Move (hearer : Option Engine) (host : Host) : Host → Prop
  | remark (effect : Effect) (isRemark : effect.IsRemark) : Move hearer host (host.record effect)
  | mode (mode : Mode) : Move hearer host (host.setMode mode)
  | force : Move hearer host { host with forceUpgrade := true }
  | port (change : PortChange) : Move hearer host { host with world := host.world.change change }
  | fireLink : Move hearer host { host with link.timer := host.link.timer.fire }
  | fireConsole : Move hearer host { host with console.timer := host.console.timer.fire }
  | launch (can : host.CanSend) : Move hearer host { host with launchPending := true }
  | launched : Move hearer host { host with launchPending := false }
  | settle : Move hearer host { host with pendingEntry := none }
  | enqueue (command : Ezsp.Command) (opened : host.opened = true)
      (unsent : command.sequence = none) :
      Move hearer host ({ host with queue := host.queue ++ [command] }.record (.queued command))
  /-- The oldest command goes out, for the first time or again. -/
  | send (command : Ezsp.Command) (later : List Ezsp.Command) (can : host.CanSend)
      (oldest : host.queue = command :: later) :
      Move hearer host { host with waiting := false }.sendNext.2
  /-- No command can go out, or there is none. -/
  | hold (cannot : ¬ (host.CanSend ∧ host.queue ≠ [])) :
      Move hearer host { host with waiting := false }
  | answer (response : Ezsp.Frame) (command : Ezsp.Command) (later : List Ezsp.Command)
      (inFlight : host.waiting = true) (oldest : host.queue = command :: later)
      (matching : command.id = response.commandId) (heard : hearer = some .link) :
      Move hearer host { (host.report (.frameReceived response.commandId response.sequence
        response.parameters)).endWait.record (.answered command response) with
        queue := later
        waiting := false }
  | read (bytes : List UInt8) (active : host.active = .link) :
      Move hearer host { host with
        link := (host.link.receive host.world bytes).2.1
        world := (host.link.receive host.world bytes).2.2 }
  | acknowledge (opened : host.opened = true) (heard : hearer = some .link) :
      Move hearer host { host with
        link := (host.link.acknowledge host.world).2.1
        world := (host.link.acknowledge host.world).2.2 }
  | pollLink :
      Move hearer host { host with
        link := (host.link.poll host.world).2.1
        world := (host.link.poll host.world).2.2 }
  /-- The frame in flight is to be repeated under its own number. -/
  | rewind (inFlight : host.waiting = true) :
      Move hearer host { host with link := host.link.prepareResend }
  | reset (opened : host.opened = true) (active : host.active = .link) :
      Move hearer host host.sendReset.2
  | enter (goal : MenuEntry) : Move hearer host (host.enterBootloader goal)
  | readConsole (bytes : List UInt8) (active : host.active = .console) :
      Move hearer host { host with
        console := (host.console.receive host.world.now bytes).console
        world := host.world.notes (host.console.receive host.world.now bytes).notes }
  | pollConsole (opened : host.opened = true) (active : host.active = .console) :
      Move hearer host { host with
        console := (host.console.poll host.world).2.1
        world := (host.console.poll host.world).2.2 }
  | choose (entry : MenuEntry) (opened : host.opened = true) (active : host.active = .console) :
      Move hearer host { host with
        console := (host.console.choose host.world entry).2.1
        world := (host.console.choose host.world entry).2.2 }
  | handBack (opened : host.opened = true) :
      Move hearer host { host.record .handedBack with
        console := host.console.detach
        active := .link }
  | take : Move hearer host { host.record .handedBack with
      opened := true
      active := .link }
  | close : Move hearer host host.closePort.2

/-- Any number of moves, one after the other. -/
inductive Moves (hearer : Option Engine) (host : Host) : Host → Prop
  | refl : Moves hearer host host
  | then_move {host' last : Host} (moves : Moves hearer host host')
      (move : Move hearer host' last) : Moves hearer host last

namespace Moves

variable {hearer : Option Engine} {host host' : Host}

theorem single (move : Move hearer host host') : Moves hearer host host' := refl.then_move move

theorem trans {last : Host} (first : Moves hearer host host') (second : Moves hearer host' last) :
    Moves hearer host last := by
  induction second with
  | refl => exact first
  | then_move _ move ih => exact ih.then_move move

theorem note (moves : Moves hearer host host') (note : Note) :
    Moves hearer host (host'.note note) :=
  moves.then_move (.remark (.noted note) trivial)

theorem report (moves : Moves hearer host host') (event : Event)
    (other : event.kind ≠ .modeChanged ∧ event.kind ≠ .packet) :
    Moves hearer host (host'.report event) :=
  moves.then_move (.remark (.reported event) other)

theorem attempt {undertaking : Undertaking} {result : Except HostError Unit × Host}
    (moves : Moves hearer host result.2) : Moves hearer host (attempt undertaking result) := by
  rcases attempt_cases undertaking result with same | ⟨error, same⟩
  · rw [same]
    exact moves
  · rw [same]
    exact moves.note _

/-- Handling events one after the other, each while `P` holds. -/
theorem foldl {α : Type} {P : Host → Prop} {handle : Host → α → Host} (events : List α)
    (each : ∀ host event, P host → Moves hearer host (handle host event) ∧ P (handle host event))
    (moves : Moves hearer host host') (holds : P host') :
    Moves hearer host (events.foldl handle host') := by
  induction events generalizing host' with
  | nil => exact moves
  | cons event later ih =>
    obtain ⟨handled, still⟩ := each host' event holds
    exact ih (moves.trans handled) still

/-- What every move preserves, moves preserve. -/
theorem preserves {P : Host → Prop} (moves : Moves hearer host host')
    (each : ∀ host host', Move hearer host host' → P host → P host') (holds : P host) :
    P host' := by
  induction moves with
  | refl => exact holds
  | then_move _ move ih => exact each _ _ move ih

end Moves

variable {hearer : Option Engine} (host : Host)

/-- A host that cannot send, or has nothing to send, only forgets what was in
flight. -/
theorem sendNext_idle_of_cannot (cannot : ¬ (host.CanSend ∧ host.queue ≠ [])) :
    { host with waiting := false }.sendNext.2 = { host with waiting := false } := by
  simp only [sendNext, Bool.false_eq_true, false_or]
  split
  · rfl
  · next carried =>
    split
    · rfl
    · next opened =>
      split
      · rfl
      · next command later oldest =>
        have can : host.CanSend :=
          ⟨Decidable.not_not.mp opened, Decidable.not_not.mp fun other => carried (.inl other),
            Decidable.not_not.mp fun down => carried (.inr down)⟩
        refine absurd ⟨can, ?_⟩ cannot
        rw [show host.queue = command :: later from oldest]
        exact List.cons_ne_nil _ _

/-- What sending does: the oldest command takes a sequence number unless it has one,
goes out under it, and is in flight once the port has taken it whole. -/
theorem sendNext_of_can {command : Ezsp.Command} {later : List Ezsp.Command}
    (can : host.CanSend) (oldest : host.queue = command :: later) :
    let sequence := command.sequence.getD host.nextSequence
    let sent := host.link.send host.world
      (Ezsp.Frame.encode sequence command.id command.parameters)
    { host with waiting := false }.sendNext.2 = { host with
      queue := { command with sequence := some sequence } :: later
      nextSequence :=
        if command.sequence.isSome then host.nextSequence else host.nextSequence + 1
      link := sent.2.1
      world := sent.2.2
      waiting := sent.1.isOk } := by
  intro sequence sent
  obtain ⟨result, link, world, outcome⟩ :
      ∃ result link world, sent = (result, link, world) := ⟨_, _, _, rfl⟩
  simp only [sent, sequence] at outcome
  cases result <;>
    simp [sendNext, can.opened, can.active, can.connected, oldest, sent, sequence, outcome,
      Except.isOk, Except.toBool]

/-- The host sends its oldest command, or has nothing that it can send. -/
theorem sendNext_idle_cases :
    (∃ command later, host.CanSend ∧ host.queue = command :: later) ∨
      ¬ (host.CanSend ∧ host.queue ≠ []) ∧
        { host with waiting := false }.sendNext.2 = { host with waiting := false } := by
  by_cases can : host.CanSend ∧ host.queue ≠ []
  · obtain ⟨command, later, oldest⟩ := List.exists_cons_of_ne_nil can.2
    exact .inl ⟨command, later, can.1, oldest⟩
  · exact .inr ⟨can, sendNext_idle_of_cannot host can⟩

theorem attempt_journal (undertaking : Undertaking) (result : Except HostError Unit × Host) :
    ∃ notes : List Note, (attempt undertaking result).world.journal =
      result.2.world.journal ++ notes.map .noted := by
  obtain ⟨outcome, after⟩ := result
  cases outcome with
  | ok => exact ⟨[], (List.append_nil _).symm⟩
  | error error => exact ⟨[_], rfl⟩

theorem moves_sendNext_idle : Moves hearer host { host with waiting := false }.sendNext.2 := by
  rcases host.sendNext_idle_cases with ⟨command, later, can, oldest⟩ | ⟨cannot, same⟩
  · exact .single (.send command later can oldest)
  · rw [same]
    exact .single (.hold cannot)

theorem moves_sendNext : Moves hearer host host.sendNext.2 := by
  rcases host.sendNext_cases with ⟨-, same⟩ | same
  · rw [same]
    exact .refl
  · rw [same]
    exact moves_sendNext_idle host

theorem moves_submit (id : UInt8) (parameters : List UInt8) :
    Moves hearer host (host.submit id parameters).2 := by
  rcases host.submit_cases id parameters with ⟨-, same⟩ | ⟨opened, same⟩
  · rw [same]
    exact .refl
  · have queued : Moves hearer host (host.queued { id, parameters }) :=
      .single (.enqueue _ opened rfl)
    rw [same]
    exact queued.trans (moves_sendNext _)

theorem moves_openPort : Moves hearer host host.openPort.2 := by
  have noted : Moves hearer host (host.note (.opening host.world.port.name)) := Moves.note .refl _
  exact (noted.then_move .take).then_move (.reset rfl rfl)

theorem moves_leaveBootloader (active : host.active = .console) :
    Moves hearer host host.leaveBootloader := by
  rcases host.leaveBootloader_cases with ⟨-, same⟩ | ⟨opened, ⟨error, -, same⟩ | ⟨-, same⟩⟩
  · rw [same]
    exact .refl
  · have tried : Moves hearer host (host.tried .run) := .single (.choose .run opened active)
    rw [same]
    exact tried.note _
  · have tried : Moves hearer host (host.tried .run) := .single (.choose .run opened active)
    have application := (tried.then_move (.handBack opened)).then_move (.mode .application)
    rw [same]
    refine Moves.attempt (application.then_move (.reset ?_ ?_))
    · rw [opened_setMode]
      exact opened
    · rw [active_setMode]

theorem moves_startUpload (active : host.active = .console) :
    Moves hearer host host.startUpload := by
  rcases host.startUpload_cases with ⟨-, same⟩ | ⟨opened, ⟨error, -, same⟩ | ⟨-, same⟩⟩
  · rw [same]
    exact .refl
  · have tried : Moves hearer host (host.tried .upload) := .single (.choose .upload opened active)
    rw [same]
    exact tried.note _
  · have tried : Moves hearer host (host.tried .upload) := .single (.choose .upload opened active)
    rw [same]
    exact tried.then_move (.mode .upgrading)

theorem moves_acknowledge : Moves (some .link) host host.acknowledge := by
  rcases host.acknowledge_cases with ⟨-, same⟩ | ⟨opened, same | ⟨error, same⟩⟩
  · rw [same]
    exact .refl
  · rw [same]
    exact .single (.acknowledge opened rfl)
  · have acknowledged : Moves (some .link) host host.acknowledged :=
      .single (.acknowledge opened rfl)
    rw [same]
    exact acknowledged.note _

theorem moves_heard (frame : Ezsp.Frame) : Moves hearer host (host.heard frame) :=
  Moves.report .refl _ (by simp [Event.kind])

theorem moves_complete {frame : Ezsp.Frame} {command : Ezsp.Command} {later : List Ezsp.Command}
    (inFlight : host.waiting = true) (oldest : host.queue = command :: later)
    (matching : command.id = frame.commandId) :
    Moves (some .link) host ((host.heard frame).complete frame command later) := by
  have answered : Moves (some .link) host ((host.heard frame).answeredBy frame command later) :=
    .single (.answer frame command later inFlight oldest matching rfl)
  rw [complete_eq]
  split
  · exact (answered.then_move .launched).then_move (.enter .upload)
  · exact Moves.attempt (answered.trans (moves_sendNext _))

theorem moves_handlePayload (payload : List UInt8) :
    Moves (some .link) host (host.handlePayload payload) := by
  have acknowledged := moves_acknowledge host
  rcases host.handlePayload_cases payload with
    ⟨error, -, same⟩ | ⟨frame, -, same | ⟨inFlight, command, later, oldest, matching, same⟩⟩
  · rw [same]
    exact acknowledged.note _
  · rw [same]
    exact (acknowledged.trans (moves_heard _ frame)).note _
  · rw [same]
    rw [← waiting_acknowledge] at inFlight
    rw [← queue_acknowledge] at oldest
    exact acknowledged.trans (moves_complete _ inFlight oldest matching)

theorem moves_resend (undertaking : Undertaking) : Moves hearer host (host.resend undertaking) :=
  Moves.attempt (moves_sendNext_idle host)

theorem moves_handleConnected (code : Wire.ResetCode) :
    Moves hearer host (host.handleConnected code) := by
  have ready : Moves hearer host (host.ready code) :=
    (Moves.then_move (Moves.note .refl _) (.mode _)).report _ (by simp [Event.kind])
  rcases host.handleConnected_cases code with same | same
  · rw [same]
    exact ready.trans (moves_resend _ _)
  · rw [same]
    exact (ready.note _).trans (moves_resend _ _)

theorem moves_handleResetFailed : Moves hearer host host.handleResetFailed := by
  rcases host.handleResetFailed_cases with ⟨-, goal, same⟩ | ⟨-, same⟩
  · rw [same]
    exact Moves.then_move (Moves.note .refl _) (.enter goal)
  · rw [same]
    exact (Moves.note .refl _).report _ (by simp [Event.kind])

theorem moves_handleLinkEvent (event : LinkEvent)
    (own : ∀ data, event = .payload data → hearer = some .link) :
    Moves hearer host (host.handleLinkEvent event) := by
  cases event with
  | payload data =>
    obtain rfl := own data rfl
    exact moves_handlePayload host data
  | connected code => exact moves_handleConnected host code
  | nakObserved number => exact (Moves.note .refl _).trans (moves_resend _ _)
  | resetFailed => exact moves_handleResetFailed host
  | ackObserved | ackMismatch | resetReceived => exact .refl
  | ackTimeout action =>
    rcases host.ackTimeout_cases action with same | ⟨inFlight, same⟩
    · rw [same]
      exact .refl
    · have rewound : Moves hearer host
          { host.note .retransmitting with link := host.link.prepareResend } :=
        Moves.then_move (Moves.note .refl .retransmitting) (.rewind inFlight)
      rw [same]
      exact rewound.trans (moves_resend _ _)

/-- The console has the port as long as there is an entry to choose. -/
def Choosing (host : Host) : Prop := host.active = .console ∨ host.pendingEntry = none

theorem moves_handleConsoleEvent (event : Bootloader.ConsoleEvent) (choosing : host.Choosing) :
    Moves hearer host (host.handleConsoleEvent event) := by
  cases event with
  | transferReady => exact Moves.report .refl _ (by simp [Event.kind])
  | promptDetected =>
    have prompted : Moves hearer host host.prompted :=
      Moves.then_move (Moves.report .refl _ (by simp [Event.kind])) .settle
    have active (entry : MenuEntry) (pending : host.pendingEntry = some entry) :
        host.active = .console := choosing.resolve_right (by simp [pending])
    rcases host.prompt_cases with ⟨pending, same⟩ | ⟨pending, same⟩ | ⟨-, same⟩
    · rw [same]
      exact prompted.trans (moves_leaveBootloader _ (active _ pending))
    · rw [same]
      exact prompted.trans (moves_startUpload _ (active _ pending))
    · rw [same]
      exact prompted

theorem pendingEntry_attempt (undertaking : Undertaking) (result : Except HostError Unit × Host) :
    (attempt undertaking result).pendingEntry = result.2.pendingEntry := by
  rcases attempt_cases undertaking result with same | ⟨error, same⟩
  · rw [same]
  · rw [same]
    rfl

/-- After a prompt there is no entry left to choose. -/
theorem pendingEntry_prompt : (host.handleConsoleEvent .promptDetected).pendingEntry = none := by
  rcases host.prompt_cases with ⟨-, same⟩ | ⟨-, same⟩ | ⟨-, same⟩
  · rw [same]
    rcases host.prompted.leaveBootloader_cases with ⟨-, same⟩ | ⟨-, ⟨error, -, same⟩ | ⟨-, same⟩⟩
    · rw [same]
      rfl
    · rw [same]
      rfl
    · rw [same, pendingEntry_attempt, pendingEntry_sendReset, pendingEntry_setMode]
      rfl
  · rw [same]
    rcases host.prompted.startUpload_cases with ⟨-, same⟩ | ⟨-, ⟨error, -, same⟩ | ⟨-, same⟩⟩
    · rw [same]
      rfl
    · rw [same]
      rfl
    · rw [same, pendingEntry_setMode]
      rfl
  · rw [same]
    rfl

theorem choosing_handleConsoleEvent (event : Bootloader.ConsoleEvent) (choosing : host.Choosing) :
    (host.handleConsoleEvent event).Choosing := by
  cases event with
  | transferReady => exact choosing
  | promptDetected => exact .inr (pendingEntry_prompt host)

/-- Bytes are handled on behalf of the engine that has the port when they come. -/
theorem moves_receive (bytes : List UInt8) :
    Moves (some host.active) (host.record (.received bytes)) (host.receive bytes) := by
  unfold receive
  dsimp only
  split
  · next active =>
    have read : Moves (some host.active) (host.record (.received bytes)) _ :=
      .single (.read bytes active)
    refine Moves.foldl (P := fun _ => True) _ (fun host' event _ => ⟨?_, trivial⟩) read trivial
    exact moves_handleLinkEvent host' event fun _ _ => congrArg some active
  · next active =>
    have read : Moves (some host.active) (host.record (.received bytes)) _ :=
      .single (.readConsole bytes active)
    refine Moves.foldl (P := Choosing) _ (fun host' event choosing => ?_) read (.inl active)
    exact ⟨moves_handleConsoleEvent host' event choosing,
      choosing_handleConsoleEvent host' event choosing⟩

theorem moves_pollLink : Moves hearer host host.pollLink := by
  have polled : Moves hearer host host.polled := .single .pollLink
  rcases host.pollLink_cases with ⟨-, same⟩ | ⟨event, expired, same⟩
  · rw [same]
    exact polled
  · rw [same]
    refine polled.trans (moves_handleLinkEvent _ event ?_)
    rintro data rfl
    obtain ⟨-, ⟨-, other⟩ | ⟨-, other⟩⟩ := Link.poll_some expired
    all_goals cases other

theorem moves_pollConsole : Moves hearer host host.pollConsole := by
  rcases host.pollConsole_cases with same | ⟨active, opened, same | ⟨error, same⟩⟩
  · rw [same]
    exact .refl
  · rw [same]
    exact .single (.pollConsole opened active)
  · have probed : Moves hearer host host.probed := .single (.pollConsole opened active)
    rw [same]
    exact probed.note _

theorem moves_switchMode (requested : Mode) : Moves hearer host (host.switchMode requested).2 := by
  rcases host.switchMode_cases requested with
    same | ⟨entry, -, same | ⟨opened, ⟨carried, same⟩ | ⟨-, same⟩⟩⟩
  · rw [same]
    exact Moves.note .refl _
  · rw [same]
    exact .refl
  · have can : (host.note .launching).CanSend := ⟨opened, carried.2.1, carried.2.2⟩
    have launching : Moves hearer host host.askingLaunch :=
      Moves.then_move (Moves.note .refl _) (.launch can)
    rw [same]
    exact launching.trans (moves_submit _ _ _)
  · rw [same]
    exact .single (.enter entry)

theorem moves_step (operation : Operation) (silent : ∀ bytes, operation ≠ .receive bytes) :
    Moves hearer host (host.step operation) := by
  cases operation with
  | openPort => exact moves_openPort host
  | closePort => exact .single .close
  | submit id parameters => exact moves_submit host id parameters
  | receive bytes => exact absurd rfl (silent bytes)
  | switchMode requested => exact moves_switchMode host requested
  | forceUpgrade => exact .single .force
  | fireLink => exact .single .fireLink
  | fireConsole => exact .single .fireConsole
  | poll => exact (moves_pollLink host).trans (moves_pollConsole _)
  | port change => exact .single (.port change)

/-- What every move preserves, and the coming of bytes too, holds after every history,
for the engine to which bytes came last. -/
theorem run_of_moves {P : Option Engine → Host → Prop} {host : Host}
    (each : ∀ hearer host host', Move hearer host host' → P hearer host → P hearer host')
    (hears : ∀ hearer host bytes, P hearer host →
      P (some host.active) (host.record (.received bytes)))
    (hearer : Option Engine) (start : P hearer host) (history : List Operation) :
    ∃ hearer, P hearer (host.run history) := by
  induction history generalizing hearer host with
  | nil => exact ⟨hearer, start⟩
  | cons operation later ih =>
    by_cases heard : ∃ bytes, operation = .receive bytes
    · obtain ⟨bytes, rfl⟩ := heard
      exact ih _ ((moves_receive host bytes).preserves (each _) (hears hearer host bytes start))
    · have silent : ∀ bytes, operation ≠ .receive bytes := fun bytes same => heard ⟨bytes, same⟩
      exact ih _ ((moves_step host operation silent).preserves (each _) start)

end Host
end NcpHost
