import NcpHost.Proofs.Endpoint.Connection
import NcpHost.Proofs.Host.Reading

/-! What a host does about what it is told, seen from the link: a wait ends only because a
command is answered or the port goes to the console, the connection is lost only by a reset,
and a ready adapter is reported for each connection and for nothing else. Reading, which
may end waits and bring the link up, is not part of it. -/
namespace NcpHost

namespace Effect

/-- Why the host ends a wait by itself. -/
def Settles : Effect → Prop
  | .answered .. | .handedOver _ => True
  | _ => False

/-- Entries that tell neither of a ready adapter nor of the end of a wait. -/
def IsPlain : Effect → Prop
  | .reported event => event.kind ≠ .adapterReady
  | .waitEnded => False
  | _ => True

end Effect

/-- Every end of a wait is followed directly by its reason. -/
inductive Explained : List Effect → Prop
  | nil : Explained []
  | plain {entry : Effect} {later : List Effect} (other : entry ≠ .waitEnded)
      (rest : Explained later) : Explained (entry :: later)
  | ended {reason : Effect} {later : List Effect} (settles : reason.Settles)
      (rest : Explained later) : Explained (.waitEnded :: reason :: later)

namespace Explained

variable {entries : List Effect}

theorem append {more : List Effect} (front : Explained entries) (back : Explained more) :
    Explained (entries ++ more) := by
  induction front with
  | nil => exact back
  | plain other _ ih => exact .plain other ih
  | ended settles _ ih => exact .ended settles ih

theorem of_plain (each : ∀ entry ∈ entries, entry.IsPlain) : Explained entries := by
  induction entries with
  | nil => exact .nil
  | cons entry later ih =>
    obtain ⟨first, rest⟩ := List.forall_mem_cons.mp each
    refine .plain ?_ (ih rest)
    rintro rfl
    exact first

/-- The reason for the end of a wait comes right after it. -/
theorem reason (explained : Explained entries) {before after : List Effect}
    (split : entries = before ++ .waitEnded :: after) :
    ∃ reason later, after = reason :: later ∧ reason.Settles := by
  induction explained generalizing before with
  | nil => simp at split
  | plain other _ ih =>
    cases before with
    | nil => exact absurd (List.cons.inj split).1 other
    | cons first shown => exact ih (List.cons.inj split).2
  | @ended reason later settles _ ih =>
    match before with
    | [] => exact ⟨reason, later, (List.cons.inj split).2.symm, settles⟩
    | [first] =>
      obtain ⟨-, rest⟩ := List.cons.inj split
      obtain ⟨rfl, -⟩ := List.cons.inj rest
      exact settles.elim
    | first :: second :: shown => exact ih (List.cons.inj (List.cons.inj split).2).2

end Explained

/-- The policy is as it was, or its attempts have been given back since a wait has ended. -/
def Eased (added : List Effect) (before after : AckPolicy) : Prop :=
  after = before ∨ .waitEnded ∈ added ∧ after = before.acknowledged

theorem Eased.append {front back : List Effect} {before middle after : AckPolicy}
    (first : Eased front before middle) (second : Eased back middle after) :
    Eased (front ++ back) before after := by
  rcases first with same | ⟨ended, same⟩
  · rcases second with same' | ⟨ended, same'⟩
    · exact .inl (same'.trans same)
    · exact .inr ⟨List.mem_append_right _ ended, by rw [same', same]⟩
  · refine .inr ⟨List.mem_append_left _ ended, ?_⟩
    rcases second with same' | ⟨-, same'⟩
    · rw [same', same]
    · rw [same', same, AckPolicy.acknowledged_acknowledged]

/-- Events upon which a ready adapter is reported. -/
def LinkEvent.raises : LinkEvent → Bool
  | .connected _ => true
  | _ => false

theorem raises_signals (signals : List Signal) :
    (signals.filterMap Signal.event?).countP LinkEvent.raises = Endpoint.raised signals := by
  rw [List.countP_filterMap, Endpoint.raised]
  refine List.countP_congr fun signal _ => ?_
  cases signal <;> rfl

namespace Journal

/-- How often a journal reports a ready adapter. -/
def readies (journal : List Effect) : Nat := journal.count (.reported .adapterReady)

theorem readies_append (front back : List Effect) :
    readies (front ++ back) = readies front + readies back :=
  List.count_append

theorem readies_eq_zero {journal : List Effect} :
    readies journal = 0 ↔ .reported .adapterReady ∉ journal :=
  List.count_eq_zero

theorem readies_of_plain {entries : List Effect} (each : ∀ entry ∈ entries, entry.IsPlain) :
    readies entries = 0 :=
  readies_eq_zero.mpr fun told => each _ told rfl

end Journal

namespace Host

/-- What the endpoint of the link signals in an operation. -/
def signalled (host : Host) : Operation → List Signal
  | .receive bytes =>
    if host.active = .link then (host.link.endpoint.receive bytes).signals else []
  | _ => []

/-- From one host to the other, a ready adapter is reported `ready` times. The connection
may be lost on the way if `resets` allows for it. -/
def Conduct (ready : Nat) (resets : Bool) (host host' : Host) : Prop :=
  ∃ added, host'.world.journal = host.world.journal ++ added ∧
    Explained added ∧ Journal.readies added = ready ∧
    (host'.link.connected = host.link.connected ∨
      resets = true ∧ host'.link.connected = false ∧
        ∃ outcome, .sent (.frame .reset) outcome ∈ added) ∧
    Eased added host.link.policy host'.link.policy

namespace Conduct

variable {host host' last : Host} {ready more : Nat} {resets : Bool}

/-- Nothing is reported, and the link is as it was. -/
theorem of_adds (adds : World.Adds Effect.IsPlain host.world host'.world)
    (connected : host'.link.connected = host.link.connected)
    (policy : host'.link.policy = host.link.policy) : Conduct 0 resets host host' := by
  obtain ⟨added, journal, each⟩ := adds
  exact ⟨added, journal, .of_plain each, Journal.readies_of_plain each, .inl connected,
    .inl policy⟩

theorem refl (host : Host) : Conduct 0 resets host host := of_adds (.refl _) rfl rfl

theorem trans (first : Conduct ready resets host host') (second : Conduct more resets host' last) :
    Conduct (ready + more) resets host last := by
  obtain ⟨front, journal, explained, told, connected, policy⟩ := first
  obtain ⟨back, journal', explained', told', connected', policy'⟩ := second
  refine ⟨front ++ back, by rw [journal', journal, List.append_assoc], explained.append explained',
    by rw [Journal.readies_append, told, told'], ?_, policy.append policy'⟩
  rcases connected' with same | ⟨allowed, down, outcome, member⟩
  · rcases connected with same' | ⟨allowed, down, outcome, member⟩
    · exact .inl (same.trans same')
    · exact .inr ⟨allowed, same.trans down, outcome, List.mem_append_left _ member⟩
  · exact .inr ⟨allowed, down, outcome, List.mem_append_right _ member⟩

theorem record (conduct : Conduct ready resets host host') {effect : Effect}
    (plain : effect.IsPlain) : Conduct ready resets host (host'.record effect) := by
  have recorded : Conduct 0 resets host' (host'.record effect) :=
    of_adds ((World.Adds.refl _).record plain) rfl rfl
  exact conduct.trans recorded

theorem note (conduct : Conduct ready resets host host') (note : Note) :
    Conduct ready resets host (host'.note note) :=
  conduct.record trivial

theorem attempt {undertaking : Undertaking} {result : Except HostError Unit × Host}
    (conduct : Conduct ready resets host result.2) :
    Conduct ready resets host (attempt undertaking result) := by
  rcases attempt_cases undertaking result with same | ⟨error, same⟩
  · rw [same]
    exact conduct
  · rw [same]
    exact conduct.note _

theorem setMode (host : Host) (mode : Mode) : Conduct 0 resets host (host.setMode mode) := by
  refine of_adds (adds_setMode host mode fun _ _ => nofun) ?_ ?_
  all_goals rw [setMode_eq]

/-! Waits that the host ends. -/

theorem ended (reason : Effect) (settles : reason.Settles)
    (journal : host'.world.journal = host.world.journal ++ [.waitEnded, reason])
    (link : host'.link = (host.link.endWait host.world).1) : Conduct 0 resets host host' := by
  have told : Journal.readies [.waitEnded, reason] = 0 := by
    cases reason with
    | answered | handedOver => rfl
    | sent | received | reported | noted | queued | handedBack | waitEnded => exact settles.elim
  refine ⟨_, journal, .ended settles .nil, told, .inl ?_, .inr ⟨List.mem_cons_self, ?_⟩⟩
  all_goals
    rw [link]
    rfl

theorem enterBootloader (host : Host) (goal : MenuEntry) :
    Conduct 0 resets host (host.enterBootloader goal) := by
  have turned : Conduct 0 resets host (host.turned goal) :=
    ended (.handedOver goal) trivial (List.append_assoc ..) rfl
  rw [enterBootloader_eq]
  dsimp only
  split
  · exact turned.trans (setMode _ _)
  · exact turned

theorem answeredBy (host : Host) (response : Ezsp.Frame) (command : Ezsp.Command)
    (later : List Ezsp.Command) :
    Conduct 0 resets host (host.answeredBy response command later) :=
  ended (.answered command response) trivial (List.append_assoc ..) rfl

/-! What is sent. -/

theorem sendNext_idle (host : Host) :
    Conduct 0 resets host { host with waiting := false }.sendNext.2 := by
  rcases host.sendNext_idle_cases with ⟨command, later, can, oldest⟩ | ⟨-, same⟩
  · rw [sendNext_of_can host can oldest]
    refine of_adds (host.link.adds_send host.world _ (fun _ => trivial) fun _ _ => trivial) ?_ ?_
    all_goals rw [Link.send_eq]
    rfl
  · rw [same]
    exact of_adds (.refl _) rfl rfl

theorem sendNext (host : Host) : Conduct 0 resets host host.sendNext.2 := by
  rcases host.sendNext_cases with ⟨-, same⟩ | same
  · rw [same]
    exact refl host
  · rw [same]
    exact sendNext_idle host

theorem resend (host : Host) (undertaking : Undertaking) :
    Conduct 0 resets host (host.resend undertaking) :=
  (sendNext_idle host).attempt

theorem submit (host : Host) (id : UInt8) (parameters : List UInt8) :
    Conduct 0 resets host (host.submit id parameters).2 := by
  have queued : Conduct 0 resets host (host.queued { id, parameters }) :=
    of_adds ((World.Adds.refl _).record trivial) rfl rfl
  rcases host.submit_cases id parameters with ⟨-, same⟩ | ⟨-, same⟩
  · rw [same]
    exact refl host
  · rw [same]
    exact queued.trans (sendNext _)

theorem acknowledge (host : Host) : Conduct 0 resets host host.acknowledge := by
  have acknowledged : Conduct 0 resets host host.acknowledged :=
    of_adds (host.link.adds_acknowledge host.world fun _ _ => trivial) rfl rfl
  rcases host.acknowledge_cases with ⟨-, same⟩ | ⟨-, same | ⟨error, same⟩⟩
  · rw [same]
    exact refl host
  · rw [same]
    exact acknowledged
  · rw [same]
    exact acknowledged.note _

theorem restarted (host : Host) : Conduct 0 true host host.restarted := by
  obtain ⟨notes, journal⟩ := host.link.reset_journal host.world
  have adds : World.Adds Effect.IsPlain host.world host.restarted.world :=
    host.link.adds_reset host.world (fun _ => trivial) fun _ _ => trivial
  obtain ⟨added, shown, plain⟩ := adds
  obtain rfl := List.append_cancel_left (shown.symm.trans journal)
  refine ⟨_, journal, .of_plain plain, Journal.readies_of_plain plain,
    .inr ⟨rfl, ?_, _, List.mem_cons_self⟩, .inl ?_⟩
  all_goals rw [Host.restarted, Link.reset_eq]
  rfl

theorem sendReset (host : Host) : Conduct 0 true host host.sendReset.2 := by
  rcases host.sendReset_cases with ⟨-, same⟩ | ⟨-, same⟩
  · rw [same]
    exact refl host
  · rw [same]
    exact restarted host

/-! What comes of the frames of the link. -/

theorem heard (host : Host) (frame : Ezsp.Frame) : Conduct 0 resets host (host.heard frame) :=
  (refl host).record nofun

theorem complete (host : Host) (response : Ezsp.Frame) (command : Ezsp.Command)
    (later : List Ezsp.Command) :
    Conduct 0 resets host (host.complete response command later) := by
  have answered : Conduct 0 resets host (host.answeredBy response command later) :=
    answeredBy host response command later
  rw [complete_eq]
  split
  · have launched : Conduct 0 resets (host.answeredBy response command later)
        { host.answeredBy response command later with launchPending := false } :=
      of_adds (.refl _) rfl rfl
    exact (answered.trans launched).trans (enterBootloader _ _)
  · exact (answered.trans (sendNext _)).attempt

theorem handlePayload (host : Host) (payload : List UInt8) :
    Conduct 0 resets host (host.handlePayload payload) := by
  have acknowledged : Conduct 0 resets host host.acknowledge := acknowledge host
  rcases host.handlePayload_cases payload with
    ⟨error, -, same⟩ | ⟨frame, -, same | ⟨-, command, later, -, -, same⟩⟩
  · rw [same]
    exact acknowledged.note _
  · rw [same]
    exact (acknowledged.trans (heard _ frame)).note _
  · rw [same]
    exact (acknowledged.trans (heard _ frame)).trans (complete _ _ _ _)

theorem handleConnected (host : Host) (code : Wire.ResetCode) :
    Conduct 1 resets host (host.handleConnected code) := by
  have application : Conduct 0 resets host ((host.note (.linkUp code)).setMode .application) :=
    ((refl host).note _).trans (setMode _ _)
  have reported : Conduct 1 resets ((host.note (.linkUp code)).setMode .application)
      (host.ready code) :=
    ⟨[.reported .adapterReady], rfl, .plain nofun .nil, rfl, .inl rfl, .inl rfl⟩
  have ready : Conduct (0 + 1) resets host (host.ready code) := application.trans reported
  rcases host.handleConnected_cases code with same | same
  · rw [same]
    exact ready.trans (resend _ _)
  · rw [same]
    exact (ready.note _).trans (resend _ _)

theorem handleResetFailed (host : Host) : Conduct 0 resets host host.handleResetFailed := by
  rcases host.handleResetFailed_cases with ⟨-, goal, same⟩ | ⟨-, same⟩
  · rw [same]
    exact ((refl host).note _).trans (enterBootloader _ _)
  · rw [same]
    exact ((refl host).note _).record nofun

theorem ackTimeout (host : Host) (action : TimeoutAction) :
    Conduct 0 resets host (host.handleLinkEvent (.ackTimeout action)) := by
  rcases host.ackTimeout_cases action with same | ⟨-, same⟩
  · rw [same]
    exact refl host
  · have rewound : Conduct 0 resets (host.note .retransmitting)
        { host.note .retransmitting with link := host.link.prepareResend } :=
      of_adds (.refl _) rfl rfl
    rw [same]
    exact (((refl host).note _).trans rewound).trans (resend _ _)

theorem handleLinkEvent (host : Host) (event : LinkEvent) :
    Conduct (if event.raises then 1 else 0) resets host (host.handleLinkEvent event) := by
  cases event with
  | payload data => exact handlePayload host data
  | connected code => exact handleConnected host code
  | nakObserved number => exact ((refl host).note _).trans (resend _ _)
  | ackTimeout action => exact ackTimeout host action
  | resetFailed => exact handleResetFailed host
  | ackObserved | ackMismatch | resetReceived => exact refl host

theorem foldl_handleLinkEvent (events : List LinkEvent) (host : Host) :
    Conduct (events.countP LinkEvent.raises) resets host
      (events.foldl Host.handleLinkEvent host) := by
  induction events generalizing host with
  | nil => exact refl host
  | cons event later ih =>
    rw [List.countP_cons, Nat.add_comm]
    exact (handleLinkEvent host event).trans (ih _)

/-! The dialogue with the bootloader. -/

theorem tried (host : Host) (entry : MenuEntry) : Conduct 0 resets host (host.tried entry) :=
  of_adds (host.console.adds_choose host.world entry (fun _ => trivial) fun _ _ => trivial) rfl rfl

theorem leaveBootloader (host : Host) : Conduct 0 true host host.leaveBootloader := by
  have chosen : Conduct 0 true host (host.tried .run) := tried host .run
  rcases host.leaveBootloader_cases with ⟨-, same⟩ | ⟨-, ⟨error, -, same⟩ | ⟨-, same⟩⟩
  · rw [same]
    exact refl host
  · rw [same]
    exact chosen.note _
  · have back : Conduct 0 true (host.tried .run) (host.tried .run).handedBack :=
      of_adds ((World.Adds.refl _).record trivial) rfl rfl
    rw [same]
    exact (((chosen.trans back).trans (setMode _ _)).trans (sendReset _)).attempt

theorem startUpload (host : Host) : Conduct 0 resets host host.startUpload := by
  have chosen : Conduct 0 resets host (host.tried .upload) := tried host .upload
  rcases host.startUpload_cases with ⟨-, same⟩ | ⟨-, ⟨error, -, same⟩ | ⟨-, same⟩⟩
  · rw [same]
    exact refl host
  · rw [same]
    exact chosen.note _
  · rw [same]
    exact chosen.trans (setMode _ _)

theorem handleConsoleEvent (host : Host) (event : Bootloader.ConsoleEvent) :
    Conduct 0 true host (host.handleConsoleEvent event) := by
  cases event with
  | transferReady => exact (refl host).record nofun
  | promptDetected =>
    have prompted : Conduct 0 true host host.prompted :=
      of_adds ((World.Adds.refl _).record nofun) rfl rfl
    rcases host.prompt_cases with ⟨-, same⟩ | ⟨-, same⟩ | ⟨-, same⟩
    · rw [same]
      exact prompted.trans (leaveBootloader _)
    · rw [same]
      exact prompted.trans (startUpload _)
    · rw [same]
      exact prompted

theorem foldl_handleConsoleEvent (events : List Bootloader.ConsoleEvent) (host : Host) :
    Conduct 0 true host (events.foldl Host.handleConsoleEvent host) := by
  induction events generalizing host with
  | nil => exact refl host
  | cons event later ih => exact (handleConsoleEvent host event).trans (ih _)

/-! Whole operations. -/

theorem received (host : Host) (bytes : List UInt8) :
    Conduct 0 resets host (host.record (.received bytes)) :=
  (refl host).record trivial

theorem receive_console (active : host.active = .console) (bytes : List UInt8) :
    Conduct 0 true host (host.receive bytes) := by
  have read : Conduct 0 true (host.record (.received bytes)) (host.read bytes) := by
    refine of_adds ?_ ?_ ?_
    · rw [read_console active]
      exact (World.Adds.refl _).notes _ fun _ _ => trivial
    all_goals
      rw [link_read active]
      rfl
  rw [Host.receive_console active]
  exact ((received host bytes).trans read).trans (foldl_handleConsoleEvent _ _)

theorem openPort (host : Host) : Conduct 0 true host host.openPort.2 := by
  have taken : Conduct 0 true host
      { (host.note (.opening host.world.port.name)).record .handedBack with
        opened := true
        active := .link } :=
    of_adds (((World.Adds.refl _).record (by trivial)).record (by trivial)) rfl rfl
  exact taken.trans (sendReset _)

theorem switchMode (host : Host) (requested : Mode) :
    Conduct 0 resets host (host.switchMode requested).2 := by
  rcases host.switchMode_cases requested with
    same | ⟨entry, -, same | ⟨-, ⟨-, same⟩ | ⟨-, same⟩⟩⟩
  · rw [same]
    exact (refl host).note _
  · rw [same]
    exact refl host
  · have asking : Conduct 0 resets host host.askingLaunch :=
      of_adds ((World.Adds.refl _).record trivial) rfl rfl
    rw [same]
    exact asking.trans (submit _ _ _)
  · rw [same]
    exact enterBootloader host entry

theorem pollConsole (host : Host) : Conduct 0 resets host host.pollConsole := by
  have probed : Conduct 0 resets host host.probed :=
    of_adds (host.console.adds_poll host.world fun _ => trivial) rfl rfl
  rcases host.pollConsole_cases with same | ⟨-, -, same | ⟨error, same⟩⟩
  · rw [same]
    exact refl host
  · rw [same]
    exact probed
  · rw [same]
    exact probed.note _

/-- What follows once the bytes for the link are read. -/
theorem receive_link (active : host.active = .link) (bytes : List UInt8) :
    Conduct (Endpoint.raised (host.link.endpoint.receive bytes).signals) resets
      (host.read bytes) (host.receive bytes) := by
  rw [receive_signals active, ← raises_signals]
  exact foldl_handleLinkEvent _ _

/-- What follows once the link has looked at its timer. -/
theorem poll (host : Host) : Conduct 0 resets host.polled host.poll := by
  refine Conduct.trans ?_ (pollConsole host.pollLink)
  rcases host.pollLink_cases with ⟨-, same⟩ | ⟨event, expired, same⟩
  · rw [same]
    exact refl _
  · rw [same]
    obtain ⟨-, ⟨-, rfl⟩ | ⟨-, rfl⟩⟩ := Link.poll_some expired
    all_goals exact handleLinkEvent host.polled _

/-- All but three kinds of operation are conduct from beginning to end. -/
theorem step (host : Host) (operation : Operation) :
    (∃ bytes, operation = .receive bytes ∧ host.active = .link) ∨ operation = .poll ∨
      operation = .closePort ∨
      host.signalled operation = [] ∧ Conduct 0 true host (host.step operation) := by
  cases operation with
  | poll => exact .inr (.inl rfl)
  | closePort => exact .inr (.inr (.inl rfl))
  | receive bytes =>
    cases active : host.active with
    | link => exact .inl ⟨bytes, rfl, rfl⟩
    | console =>
      exact .inr (.inr (.inr ⟨by simp [signalled, active], receive_console active bytes⟩))
  | openPort => exact .inr (.inr (.inr ⟨rfl, openPort host⟩))
  | submit id parameters => exact .inr (.inr (.inr ⟨rfl, submit host id parameters⟩))
  | switchMode requested => exact .inr (.inr (.inr ⟨rfl, switchMode host requested⟩))
  | forceUpgrade | fireLink | fireConsole | port =>
    exact .inr (.inr (.inr ⟨rfl, of_adds (.refl _) rfl rfl⟩))

end Conduct
end Host
end NcpHost
