import NcpHost.Proofs.Host.Order
import NcpHost.Proofs.Link.Handshake

/-! No command is forgotten in the queue. Whatever ends a wait sends the next command at
once, or leaves the host unable to send; and whatever makes the host able to send tells it
so. Between the bytes that bring the link up and the event that says it, commands do lie
idle: what is shown of the handling of events takes the event still to come into account. -/
namespace NcpHost

/-- A link that comes up while bytes are read says so. -/
theorem Link.connected_told {link : Link} {world : World} {bytes : List UInt8}
    (up : (link.receive world bytes).2.1.connected = true) :
    link.connected = true ∨ ∃ code, .connected code ∈ (link.receive world bytes).1 := by
  rw [Link.connected, receive_endpoint, Endpoint.connected_receive] at up
  rw [connected_event_iff, (Endpoint.receive_frames _ _).1, Sequence.connected_mem_signals]
  cases before : link.connected with
  | true => exact .inl rfl
  | false => exact .inr ⟨before, up.resolve_left (by rw [← Link.connected, before]; decide)⟩

namespace Journal

variable {journal added : List Effect}

/-- The last DATA frame that was handed to the port was not accepted in full. -/
def Refused (journal : List Effect) : Prop :=
  ∃ before entry after, journal = before ++ entry :: after ∧
    entry.offered?.isSome = true ∧ entry.carried? = none ∧ ∀ later ∈ after, later.offered? = none

theorem Refused.append (refused : Refused journal)
    (apart : ∀ effect ∈ added, effect.IsApart) : Refused (journal ++ added) := by
  obtain ⟨before, entry, after, rfl, offered, refused, last⟩ := refused
  refine ⟨before, entry, after ++ added, by simp, offered, refused, ?_⟩
  intro later member
  exact (List.mem_append.mp member).elim (last later) fun new => (apart later new).offered

end Journal

namespace Host

variable {host host' : Host}

/-- If a command can go out and there is one, it is in flight, unless the port has refused
the last attempt. -/
def Awake (host : Host) : Prop :=
  host.CanSend → host.queue ≠ [] → host.waiting = true ∨ Journal.Refused host.world.journal

theorem awake_of_cannot (cannot : ¬ host.CanSend) : Awake host :=
  fun can => absurd can cannot

/-- Nothing has changed that sending depends on, and no command went out. -/
theorem Awake.still (awake : Awake host) (can : host'.CanSend → host.CanSend)
    (queue : host'.queue = host.queue) (waiting : host.waiting = true → host'.waiting = true)
    (quiet : World.Quiet host.world host'.world) : Awake host' := by
  intro able nonempty
  rw [queue] at nonempty
  obtain ⟨added, journal, each⟩ := quiet
  rcases awake (can able) nonempty with inFlight | refused
  · exact .inl (waiting inFlight)
  · rw [journal]
    exact .inr (refused.append fun effect member => (each effect member).isApart)

theorem Awake.record (awake : Awake host) (effect : Effect) (quiet : effect.IsQuiet) :
    Awake (host.record effect) :=
  awake.still (fun can => ⟨can.opened, can.active, can.connected⟩) rfl id
    ((World.Adds.refl _).record quiet)

theorem Awake.note (awake : Awake host) (note : Note) : Awake (host.note note) :=
  awake.record (.noted note) trivial

theorem Awake.report (awake : Awake host) (event : Event) : Awake (host.report event) :=
  awake.record (.reported event) trivial

theorem Awake.attempt {undertaking : Undertaking} {result : Except HostError Unit × Host}
    (awake : Awake result.2) : Awake (attempt undertaking result) := by
  rcases attempt_cases undertaking result with same | ⟨error, same⟩
  · rw [same]
    exact awake
  · rw [same]
    exact awake.note _

/-- A DATA frame that did not go out whole was refused. -/
theorem refused_send {link : Link} {world : World} {payload : List UInt8}
    (failed : (link.send world payload).1.isOk = false) :
    Journal.Refused (link.send world payload).2.2.journal := by
  have undelivered : (Effect.sent (.frame (link.endpoint.data payload).1)
      (world.port.write (link.endpoint.data payload).1.wire).1).delivered? = none := by
    rw [Link.send_eq] at failed
    exact if_neg (Bool.eq_false_iff.mp failed)
  refine ⟨_, _, [], link.send_journal world payload, rfl, ?_, by simp⟩
  rw [Effect.carried?, undelivered]
  rfl

/-- To send the next command is to have it in flight or to see it refused. -/
theorem awake_sendNext_idle (host : Host) :
    Awake { host with waiting := false }.sendNext.2 := by
  rcases host.sendNext_idle_cases with ⟨command, later, can, oldest⟩ | ⟨cannot, same⟩
  · rw [sendNext_of_can host can oldest]
    intro able nonempty
    dsimp only
    cases sent : (host.link.send host.world (Ezsp.Frame.encode
      (command.sequence.getD host.nextSequence) command.id command.parameters)).1.isOk with
    | true => exact .inl rfl
    | false => exact .inr (refused_send sent)
  · rw [same]
    intro able nonempty
    exact absurd ⟨⟨able.opened, able.active, able.connected⟩, nonempty⟩ cannot

theorem awake_sendNext (host : Host) : Awake host.sendNext.2 := by
  rcases host.sendNext_cases with ⟨inFlight, same⟩ | same
  · rw [same]
    exact fun _ _ => .inl inFlight
  · rw [same]
    exact awake_sendNext_idle host

theorem awake_resend (host : Host) (undertaking : Undertaking) :
    Awake (host.resend undertaking) :=
  (awake_sendNext_idle host).attempt

/-- A reset takes the link down. -/
theorem cannot_sendReset (host : Host) : ¬ host.sendReset.2.CanSend := by
  intro can
  rcases host.sendReset_cases with ⟨shut, same⟩ | ⟨-, same⟩
  · rw [same] at can
    exact Bool.false_ne_true (shut.symm.trans can.opened)
  · have down : host.restarted.link.connected = false := by
      rw [restarted, Link.reset_eq]
      rfl
    rw [same] at can
    exact Bool.false_ne_true (down.symm.trans can.connected)

theorem awake_sendReset (host : Host) : Awake host.sendReset.2 :=
  awake_of_cannot (cannot_sendReset host)

theorem awake_of_console (active : host.active = .console) : Awake host :=
  awake_of_cannot fun can => absurd (active.symm.trans can.active) (by decide)

theorem awake_enterBootloader (host : Host) (goal : MenuEntry) :
    Awake (host.enterBootloader goal) :=
  awake_of_console (active_enterBootloader host goal)

theorem awake_submit (host : Host) (id : UInt8) (parameters : List UInt8) :
    Awake (host.submit id parameters).2 := by
  rcases host.submit_cases id parameters with ⟨shut, same⟩ | ⟨-, same⟩
  · rw [same]
    exact awake_of_cannot fun can => Bool.false_ne_true (shut.symm.trans can.opened)
  · rw [same]
    exact awake_sendNext _

/-- Once a command has its response, the next one goes out. -/
theorem awake_complete (host : Host) (response : Ezsp.Frame) (command : Ezsp.Command)
    (later : List Ezsp.Command) : Awake (host.complete response command later) := by
  rw [complete_eq]
  split
  · exact awake_enterBootloader _ _
  · exact (awake_sendNext _).attempt

theorem Awake.acknowledge (awake : Awake host) : Awake host.acknowledge := by
  have acknowledged : Awake host.acknowledged :=
    awake.still (fun can => ⟨can.opened, can.active, can.connected⟩) rfl id
      (host.link.adds_acknowledge host.world fun _ _ => trivial)
  rcases host.acknowledge_cases with ⟨-, same⟩ | ⟨-, same | ⟨error, same⟩⟩
  · rw [same]
    exact awake
  · rw [same]
    exact acknowledged
  · rw [same]
    exact acknowledged.note _

theorem Awake.handlePayload (awake : Awake host) (payload : List UInt8) :
    Awake (host.handlePayload payload) := by
  rcases host.handlePayload_cases payload with
    ⟨error, -, same⟩ | ⟨frame, -, same | ⟨-, command, later, -, -, same⟩⟩
  · rw [same]
    exact awake.acknowledge.note _
  · rw [same]
    exact (awake.acknowledge.report _).note _
  · rw [same]
    exact awake_complete _ _ _ _

theorem awake_handleConnected (host : Host) (code : Wire.ResetCode) :
    Awake (host.handleConnected code) :=
  awake_resend _ _

theorem Awake.handleResetFailed (awake : Awake host) : Awake host.handleResetFailed := by
  rcases host.handleResetFailed_cases with ⟨-, goal, same⟩ | ⟨-, same⟩
  · rw [same]
    exact awake_enterBootloader _ _
  · rw [same]
    exact (awake.note _).report _

theorem Awake.handleLinkEvent (awake : Awake host) (event : LinkEvent) :
    Awake (host.handleLinkEvent event) := by
  cases event with
  | payload data => exact awake.handlePayload data
  | connected code => exact awake_handleConnected host code
  | nakObserved number => exact awake_resend _ _
  | resetFailed => exact awake.handleResetFailed
  | ackObserved | ackMismatch | resetReceived => exact awake
  | ackTimeout action =>
    rcases host.ackTimeout_cases action with same | ⟨-, same⟩
    · rw [same]
      exact awake
    · rw [same]
      exact awake_resend _ _

/-- Handling events one after the other keeps a property that handling each of them keeps;
and if the property was lost because the link came up, the event that says so restores it. -/
theorem foldl_handleLinkEvent_restores (base property : Host → Prop) (events : List LinkEvent)
    (keeps : ∀ host, ∀ event ∈ events, base host → base (host.handleLinkEvent event))
    (stays : ∀ host, ∀ event ∈ events, base host → property host →
      property (host.handleLinkEvent event))
    (restores : ∀ host code, base host → property (host.handleConnected code)) (based : base host)
    (ready : property host ∨ ∃ code, .connected code ∈ events) :
    base (events.foldl handleLinkEvent host) ∧ property (events.foldl handleLinkEvent host) := by
  induction events generalizing host with
  | nil => exact ⟨based, by simpa using ready⟩
  | cons event later ih =>
    refine ih (fun host event member => keeps host event (List.mem_cons_of_mem _ member))
      (fun host event member => stays host event (List.mem_cons_of_mem _ member))
      (keeps host event List.mem_cons_self based) ?_
    rcases ready with holds | ⟨code, told⟩
    · exact .inl (stays host event List.mem_cons_self based holds)
    · rcases List.mem_cons.mp told with rfl | after
      · exact .inl (restores host code based)
      · exact .inr ⟨code, after⟩

theorem awake_leaveBootloader (host : Host) (active : host.active = .console) :
    Awake host.leaveBootloader := by
  rcases host.leaveBootloader_cases with ⟨-, same⟩ | ⟨-, ⟨error, -, same⟩ | ⟨-, same⟩⟩
  · rw [same]
    exact awake_of_console active
  · rw [same]
    exact awake_of_console active
  · rw [same]
    exact (awake_sendReset _).attempt

theorem awake_startUpload (host : Host) (active : host.active = .console) :
    Awake host.startUpload := by
  rcases host.startUpload_cases with ⟨-, same⟩ | ⟨-, ⟨error, -, same⟩ | ⟨-, same⟩⟩
  · rw [same]
    exact awake_of_console active
  · rw [same]
    exact awake_of_console active
  · rw [same]
    exact awake_of_console ((active_setMode _ _).trans active)

theorem Awake.handleConsoleEvent (awake : Awake host) (choosing : host.Choosing)
    (event : Bootloader.ConsoleEvent) : Awake (host.handleConsoleEvent event) := by
  cases event with
  | transferReady => exact awake.report _
  | promptDetected =>
    have active (entry : MenuEntry) (pending : host.pendingEntry = some entry) :
        host.active = .console := choosing.resolve_right (by simp [pending])
    rcases host.prompt_cases with ⟨pending, same⟩ | ⟨pending, same⟩ | ⟨-, same⟩
    · rw [same]
      exact awake_leaveBootloader _ (active _ pending)
    · rw [same]
      exact awake_startUpload _ (active _ pending)
    · rw [same]
      exact awake.still (fun can => ⟨can.opened, can.active, can.connected⟩) rfl id
        ((World.Adds.refl _).record trivial)

theorem awake_foldl_handleConsoleEvent (events : List Bootloader.ConsoleEvent)
    (awake : Awake host) (choosing : host.Choosing) :
    Awake (events.foldl handleConsoleEvent host) := by
  induction events generalizing host with
  | nil => exact awake
  | cons event later ih =>
    exact ih (awake.handleConsoleEvent choosing event)
      (choosing_handleConsoleEvent host event choosing)

/-- Reading leaves the commands alone; if it brings the link up, an event says so. -/
theorem Awake.receive (awake : Awake host) (bytes : List UInt8) : Awake (host.receive bytes) := by
  have heard : Awake (host.record (.received bytes)) := awake.record _ trivial
  unfold Host.receive
  dsimp only
  split
  · next active =>
    refine (foldl_handleLinkEvent_restores (fun _ => True) Awake _ (fun _ _ _ _ => trivial)
      (fun _ event _ _ holds => holds.handleLinkEvent event)
      (fun host code _ => awake_handleConnected host code) trivial ?_).2
    by_cases told : ∃ code, .connected code ∈
        ((host.record (.received bytes)).link.receive
          (host.record (.received bytes)).world bytes).1
    · exact .inr told
    · refine .inl (heard.still ?_ rfl id (Link.adds_receive _ _ bytes (fun _ _ => trivial) trivial))
      intro can
      exact ⟨can.opened, can.active, (Link.connected_told can.connected).resolve_right told⟩
  · next active =>
    exact awake_foldl_handleConsoleEvent _ (awake_of_console active) (.inl active)

theorem Awake.poll (awake : Awake host) : Awake host.poll := by
  have polled : Awake host.polled := by
    refine awake.still ?_ rfl id (host.link.adds_poll host.world fun _ _ => trivial)
    intro can
    refine ⟨can.opened, can.active, ?_⟩
    have up : (host.link.poll host.world).2.1.connected = true := can.connected
    rwa [Link.connected, Link.poll_endpoint] at up
  have link : Awake host.pollLink := by
    rcases host.pollLink_cases with ⟨-, same⟩ | ⟨event, -, same⟩
    · rw [same]
      exact polled
    · rw [same]
      exact polled.handleLinkEvent event
  rw [Host.poll]
  rcases host.pollLink.pollConsole_cases with same | ⟨active, -, same | ⟨error, same⟩⟩
  · rw [same]
    exact link
  all_goals
    rw [same]
    exact awake_of_console active

theorem Awake.switchMode (awake : Awake host) (requested : Mode) :
    Awake (host.switchMode requested).2 := by
  rcases host.switchMode_cases requested with
    same | ⟨entry, -, same | ⟨-, ⟨-, same⟩ | ⟨-, same⟩⟩⟩
  · rw [same]
    exact awake.note _
  · rw [same]
    exact awake
  · rw [same]
    exact awake_submit _ _ _
  · rw [same]
    exact awake_enterBootloader _ _

theorem Awake.step (awake : Awake host) (operation : Operation) : Awake (host.step operation) := by
  cases operation with
  | openPort => exact awake_sendReset _
  | closePort => exact awake_of_cannot fun can => absurd can.opened Bool.false_ne_true
  | submit id parameters => exact awake_submit host id parameters
  | receive bytes => exact awake.receive bytes
  | switchMode requested => exact awake.switchMode requested
  | poll => exact awake.poll
  | forceUpgrade | fireLink | fireConsole | port =>
    exact awake.still (fun can => ⟨can.opened, can.active, can.connected⟩) rfl id (.refl _)

theorem Awake.run (awake : Awake host) (history : List Operation) : Awake (host.run history) := by
  induction history generalizing host with
  | nil => exact awake
  | cons operation later ih => exact ih (awake.step operation)

/-- Between any two operations of any history: if the port is open and the link's, and the
link is up, then a queue that is not empty has its oldest command in flight, or the last
DATA frame handed to the port was not accepted in full. So as long as the port accepts
every DATA frame, no command waits in the queue with nothing in flight. -/
theorem queue_never_stranded (settings : Settings) (port : Port) (now : Nat)
    (history : List Operation) :
    let host := (ofSettings settings { port, now }).run history
    let journal := host.world.journal
    (host.opened = true → host.active = .link → host.link.connected = true → host.queue ≠ [] →
      host.waiting = true ∨
        ∃ before entry after, journal = before ++ entry :: after ∧
          entry.offered?.isSome = true ∧ entry.carried? = none ∧
          ∀ later ∈ after, later.offered? = none) ∧
    ((∀ entry ∈ journal, entry.offered?.isSome = true → entry.carried? ≠ none) →
      host.opened = true → host.active = .link → host.link.connected = true → host.queue ≠ [] →
        host.waiting = true) := by
  intro host journal
  have start : Awake (ofSettings settings { port, now }) :=
    awake_of_cannot fun can => absurd can.opened Bool.false_ne_true
  have awake : Awake host := start.run history
  refine ⟨fun opened active connected => awake ⟨opened, active, connected⟩, ?_⟩
  intro accepted opened active connected nonempty
  refine (awake ⟨opened, active, connected⟩ nonempty).resolve_right ?_
  rintro ⟨before, entry, after, split, offered, refused, -⟩
  exact accepted entry (by rw [show journal = _ from split]; simp) offered refused

/-- A command whose frame the port refuses is left idle in the queue; the next one that is
submitted takes it along. -/
example :
    let refused := (ofSettings {} { port := { name := "line" } }).run
      [.openPort, .receive (Wire.Frame.resetAck .powerOn).wire,
        .port (.writeFaults [.fail .disconnected]), .submit 0x05 [0x01]]
    (refused.queue.length, refused.waiting) = (1, false) ∧
      ((refused.step (.submit 0x06 [])).queue.length,
        (refused.step (.submit 0x06 [])).waiting) = (2, true) := by
  decide +kernel

end Host
end NcpHost
