import NcpHost.Host.Exchange

/-! What the handlers of a host come to, outcome by outcome: each outcome with what it is
conditional on, in terms of the steps that it takes. A proof about what a host does goes
through the outcomes. -/
namespace NcpHost
namespace Host

variable (host : Host)

/-! Changes of mode, and the turn to the bootloader. -/

theorem setMode_cases (mode : Mode) :
    host.mode = mode ∧ host.setMode mode = host ∨
      host.mode ≠ mode ∧
        host.setMode mode = { host with mode }.report (.modeChanged host.mode mode) := by
  by_cases same : host.mode = mode
  · exact .inl ⟨same, if_pos same⟩
  · exact .inr ⟨same, if_neg same⟩

/-- A change of mode leaves all else alone. -/
theorem setMode_eq (mode : Mode) :
    host.setMode mode = { host with mode, world := (host.setMode mode).world } := by
  rcases host.setMode_cases mode with ⟨rfl, same⟩ | ⟨-, changed⟩
  · rw [same]
  · rw [changed]
    rfl

@[simp] theorem mode_setMode (mode : Mode) : (host.setMode mode).mode = mode := by
  rw [setMode_eq]

@[simp] theorem active_setMode (mode : Mode) : (host.setMode mode).active = host.active := by
  rw [setMode_eq]

@[simp] theorem pendingEntry_setMode (mode : Mode) :
    (host.setMode mode).pendingEntry = host.pendingEntry := by
  rw [setMode_eq]

@[simp] theorem opened_setMode (mode : Mode) : (host.setMode mode).opened = host.opened := by
  rw [setMode_eq]

@[simp] theorem queue_setMode (mode : Mode) : (host.setMode mode).queue = host.queue := by
  rw [setMode_eq]

/-- The host as it turns to the bootloader, before the mode may show it. -/
def turned (goal : MenuEntry) : Host :=
  { host.endWait.record (.handedOver goal) with
    active := .console
    waiting := false
    pendingEntry := some goal }

theorem enterBootloader_eq (goal : MenuEntry) :
    host.enterBootloader goal =
      let turned := if goal = .run then (host.turned goal).setMode goal.mode else host.turned goal
      { turned with console := turned.console.reset turned.world.now } := rfl

theorem enterBootloader_shape (goal : MenuEntry) :
    host.enterBootloader goal = { host.turned goal with
      mode := (host.enterBootloader goal).mode
      console := (host.enterBootloader goal).console
      world := (host.enterBootloader goal).world } := by
  rw [enterBootloader_eq]
  dsimp only
  split
  · rw [setMode_eq]
  · rfl

theorem active_enterBootloader (goal : MenuEntry) :
    (host.enterBootloader goal).active = .console := by
  rw [enterBootloader_shape]
  rfl

/-- The host whose first reset was not answered turns to the bootloader. -/
theorem handleResetFailed_cases :
    (host.resetAttempts ≤ 1 ∧ ∃ goal : MenuEntry, host.handleResetFailed =
        (host.note (.probingAfterReset goal.mode)).enterBootloader goal) ∨
      1 < host.resetAttempts ∧ host.handleResetFailed =
        (host.note (.adapterSilent host.resetAttempts.toNat)).report .adapterSilent := by
  by_cases few : host.resetAttempts ≤ 1
  · exact .inl ⟨few, if host.forceUpgrade then .upload else .run, if_pos few⟩
  · exact .inr ⟨UInt32.not_le.mp few, if_neg few⟩

/-! Sending. -/

theorem attempt_cases (undertaking : Undertaking) (result : Except HostError Unit × Host) :
    attempt undertaking result = result.2 ∨
      ∃ error, attempt undertaking result = result.2.note (.failed undertaking error) := by
  obtain ⟨outcome, after⟩ := result
  cases outcome with
  | ok => exact .inl rfl
  | error error => exact .inr ⟨error, rfl⟩

/-- While a command is in flight nothing is sent. -/
theorem sendNext_cases :
    (host.waiting = true ∧ host.sendNext.2 = host) ∨
      host.sendNext.2 = { host with waiting := false }.sendNext.2 := by
  cases inFlight : host.waiting with
  | true => exact .inl ⟨rfl, by simp [sendNext, inFlight]⟩
  | false =>
    have same : { host with waiting := false } = host := by rw [← inFlight]
    exact .inr (by rw [same])

/-- A command joins the queue. -/
def queued (command : Ezsp.Command) : Host :=
  { host with queue := host.queue ++ [command] }.record (.queued command)

theorem submit_cases (id : UInt8) (parameters : List UInt8) :
    (host.opened = false ∧ (host.submit id parameters).2 = host) ∨
      host.opened = true ∧
        (host.submit id parameters).2 = (host.queued { id, parameters }).sendNext.2 := by
  cases opened : host.opened with
  | false => exact .inl ⟨rfl, by simp [submit, opened]⟩
  | true => exact .inr ⟨rfl, by simp [submit, opened, queued]⟩

/-- A reset has been handed to the port. -/
def restarted : Host :=
  { host with
    link := (host.link.reset host.world).2.1
    world := (host.link.reset host.world).2.2
    resetAttempts := host.resetAttempts + 1
    waiting := false }

theorem sendReset_cases :
    (host.opened = false ∧ host.sendReset.2 = host) ∨
      host.opened = true ∧ host.sendReset.2 = host.restarted := by
  cases opened : host.opened with
  | false => exact .inl ⟨rfl, by simp [sendReset, opened]⟩
  | true => exact .inr ⟨rfl, by simp [sendReset, opened, restarted]⟩

theorem sendReset_eq :
    host.sendReset.2 = { host with
      link := host.sendReset.2.link
      world := host.sendReset.2.world
      resetAttempts := host.sendReset.2.resetAttempts
      waiting := host.sendReset.2.waiting } := by
  rcases host.sendReset_cases with ⟨-, same⟩ | ⟨-, same⟩
  · rw [same]
  · rw [same]
    rfl

theorem active_sendReset : host.sendReset.2.active = host.active := by
  rw [sendReset_eq]

theorem pendingEntry_sendReset : host.sendReset.2.pendingEntry = host.pendingEntry := by
  rw [sendReset_eq]

/-- An acknowledgement has been handed to the port. -/
def acknowledged : Host :=
  { host with
    link := (host.link.acknowledge host.world).2.1
    world := (host.link.acknowledge host.world).2.2 }

theorem acknowledge_cases :
    (host.opened = false ∧ host.acknowledge = host) ∨ host.opened = true ∧
      (host.acknowledge = host.acknowledged ∨
        ∃ error, host.acknowledge = host.acknowledged.note (.ackFailed error)) := by
  cases opened : host.opened with
  | true =>
    refine .inr ⟨rfl, ?_⟩
    rw [acknowledge, if_pos opened]
    dsimp only
    split
    · exact .inr ⟨_, rfl⟩
    · exact .inl rfl
  | false => exact .inl ⟨rfl, by simp [acknowledge, opened]⟩

theorem acknowledge_eq :
    host.acknowledge =
      { host with link := host.acknowledge.link, world := host.acknowledge.world } := by
  rcases host.acknowledge_cases with ⟨-, same⟩ | ⟨-, same | ⟨error, same⟩⟩
  · rw [same]
  all_goals
    rw [same]
    rfl

theorem waiting_acknowledge : host.acknowledge.waiting = host.waiting := by
  rw [acknowledge_eq]

theorem opened_acknowledge : host.acknowledge.opened = host.opened := by
  rw [acknowledge_eq]

theorem queue_acknowledge : host.acknowledge.queue = host.queue := by
  rw [acknowledge_eq]

/-! What comes of the frames of the link. -/

/-- A command is answered, and nothing is done about that yet. -/
def answeredBy (response : Ezsp.Frame) (command : Ezsp.Command) (later : List Ezsp.Command) :
    Host :=
  { host.endWait.record (.answered command response) with
    queue := later
    waiting := false }

theorem complete_eq (response : Ezsp.Frame) (command : Ezsp.Command) (later : List Ezsp.Command) :
    host.complete response command later =
      if response.commandId = Ezsp.launchBootloader ∧ host.launchPending = true then
        { host.answeredBy response command later with
          launchPending := false }.enterBootloader .upload
      else Host.attempt .sendNext (host.answeredBy response command later).sendNext := rfl

/-- The user is told of a frame. -/
def heard (frame : Ezsp.Frame) : Host :=
  host.report (.frameReceived frame.commandId frame.sequence frame.parameters)

theorem dispatch_cases (frame : Ezsp.Frame) :
    host.dispatch frame = host.note (.unsolicited frame.commandId frame.sequence) ∨
      host.waiting = true ∧ ∃ command later, host.queue = command :: later ∧
        command.id = frame.commandId ∧ host.dispatch frame = host.complete frame command later := by
  rw [dispatch]
  split
  · exact .inl rfl
  · next command later oldest =>
    split
    · next inFlight => exact .inr ⟨inFlight.1, command, later, oldest, inFlight.2, rfl⟩
    · exact .inl rfl

/-- A payload is acknowledged first; then it is a frame nobody waits for, or it settles the
command in flight. -/
theorem handlePayload_cases (payload : List UInt8) :
    (∃ error, Ezsp.Frame.decode payload = .error error ∧
        host.handlePayload payload = host.acknowledge.note (.malformedCommandFrame error)) ∨
      ∃ frame, Ezsp.Frame.decode payload = .ok frame ∧
        (host.handlePayload payload = (host.acknowledge.heard frame).note
            (.unsolicited frame.commandId frame.sequence) ∨
          host.waiting = true ∧ ∃ command later, host.queue = command :: later ∧
            command.id = frame.commandId ∧ host.handlePayload payload =
              (host.acknowledge.heard frame).complete frame command later) := by
  rw [handlePayload]
  split
  · next error malformed => exact .inl ⟨error, malformed, rfl⟩
  · next frame decoded =>
    refine .inr ⟨frame, decoded, ?_⟩
    rw [← waiting_acknowledge, ← queue_acknowledge]
    exact (host.acknowledge.heard frame).dispatch_cases frame

/-- The link is up, and the user knows. -/
def ready (code : Wire.ResetCode) : Host :=
  ((host.note (.linkUp code)).setMode .application).report .adapterReady

theorem handleConnected_eq (code : Wire.ResetCode) :
    host.handleConnected code =
      (if (host.ready code).waiting then (host.ready code).note .resumingInterrupted
      else host.ready code).resend .flushQueue := rfl

theorem handleConnected_cases (code : Wire.ResetCode) :
    host.handleConnected code = (host.ready code).resend .flushQueue ∨
      host.handleConnected code =
        ((host.ready code).note .resumingInterrupted).resend .flushQueue := by
  rw [handleConnected_eq]
  split
  · exact .inr rfl
  · exact .inl rfl

theorem ackTimeout_cases (action : TimeoutAction) :
    host.handleLinkEvent (.ackTimeout action) = host ∨
      host.waiting = true ∧ host.handleLinkEvent (.ackTimeout action) =
        { host.note .retransmitting with link := host.link.prepareResend }.resend .retransmit := by
  cases action with
  | logOnly => exact .inl rfl
  | retransmit =>
    by_cases inFlight : host.waiting = true
    · exact .inr ⟨inFlight, if_pos inFlight⟩
    · exact .inl (if_neg inFlight)

/-! The dialogue with the bootloader. -/

/-- The host has tried to choose an entry from the menu. -/
def tried (entry : MenuEntry) : Host :=
  { host with
    console := (host.console.choose host.world entry).2.1
    world := (host.console.choose host.world entry).2.2 }

/-- The port is the link's again. -/
def handedBack : Host :=
  { host.record .handedBack with
    console := host.console.detach
    active := .link }

theorem leaveBootloader_cases :
    (host.opened = false ∧ host.leaveBootloader = host) ∨ host.opened = true ∧
      ((∃ error, (host.console.choose host.world .run).1 = .error error ∧
          host.leaveBootloader = (host.tried .run).note (.leavingFailed error)) ∨
        (host.console.choose host.world .run).1 = .ok () ∧
          host.leaveBootloader = attempt .resetAfterLeaving
            ((host.tried .run).handedBack.setMode .application).sendReset) := by
  by_cases opened : host.opened = true
  · refine .inr ⟨opened, ?_⟩
    rw [leaveBootloader, if_pos opened]
    dsimp only
    split
    · next error failed => exact .inl ⟨error, failed, rfl⟩
    · next done => exact .inr ⟨done, rfl⟩
  · exact .inl ⟨Bool.eq_false_iff.mpr opened, if_neg opened⟩

theorem startUpload_cases :
    (host.opened = false ∧ host.startUpload = host) ∨ host.opened = true ∧
      ((∃ error, (host.console.choose host.world .upload).1 = .error error ∧
          host.startUpload = (host.tried .upload).note (.uploadFailed error)) ∨
        (host.console.choose host.world .upload).1 = .ok () ∧
          host.startUpload = (host.tried .upload).setMode .upgrading) := by
  by_cases opened : host.opened = true
  · refine .inr ⟨opened, ?_⟩
    rw [startUpload, if_pos opened]
    dsimp only
    split
    · next error failed => exact .inl ⟨error, failed, rfl⟩
    · next done => exact .inr ⟨done, rfl⟩
  · exact .inl ⟨Bool.eq_false_iff.mpr opened, if_neg opened⟩

/-- The user is told of a prompt, and whatever was to be chosen is about to be. -/
def prompted : Host :=
  { host.report (.promptSeen host.console.version) with pendingEntry := none }

theorem prompt_cases :
    (host.pendingEntry = some .run ∧
        host.handleConsoleEvent .promptDetected = host.prompted.leaveBootloader) ∨
      (host.pendingEntry = some .upload ∧
        host.handleConsoleEvent .promptDetected = host.prompted.startUpload) ∨
      host.pendingEntry = none ∧ host.handleConsoleEvent .promptDetected = host.prompted := by
  rw [handleConsoleEvent]
  split
  · next pending => exact .inl ⟨pending, rfl⟩
  · next pending => exact .inr (.inl ⟨pending, rfl⟩)
  · next pending => exact .inr (.inr ⟨pending, rfl⟩)

/-! Timers, and requests for another mode. -/

/-- The link has looked at its timer. -/
def polled : Host :=
  { host with
    link := (host.link.poll host.world).2.1
    world := (host.link.poll host.world).2.2 }

theorem pollLink_cases :
    ((host.link.poll host.world).1 = none ∧ host.pollLink = host.polled) ∨
      ∃ event, (host.link.poll host.world).1 = some event ∧
        host.pollLink = host.polled.handleLinkEvent event := by
  rw [pollLink]
  dsimp only
  cases (host.link.poll host.world).1 with
  | none => exact .inl ⟨rfl, rfl⟩
  | some event => exact .inr ⟨event, rfl, rfl⟩

/-- The console has looked at its timer, and has probed if it was time. -/
def probed : Host :=
  { host with
    console := (host.console.poll host.world).2.1
    world := (host.console.poll host.world).2.2 }

theorem pollConsole_cases :
    host.pollConsole = host ∨ host.active = .console ∧ host.opened = true ∧
      (host.pollConsole = host.probed ∨
        ∃ error, host.pollConsole = host.probed.note (.probeFailed error)) := by
  by_cases has : host.active = .console ∧ host.opened = true
  · refine .inr ⟨has.1, has.2, ?_⟩
    rw [pollConsole, if_pos has]
    dsimp only
    split
    · exact .inr ⟨_, rfl⟩
    · exact .inl rfl
  · exact .inl (if_neg has)

/-- The launch is asked for, and is to be answered by a hand-over. -/
def askingLaunch : Host := { host.note .launching with launchPending := true }

theorem switchMode_cases (requested : Mode) :
    (host.switchMode requested).2 = host.note (.switchRejected host.mode requested) ∨
      ∃ entry, host.entryFor requested = some entry ∧
        ((host.switchMode requested).2 = host ∨ host.opened = true ∧
          ((entry = .upload ∧ host.active = .link ∧ host.link.connected = true) ∧
              (host.switchMode requested).2 =
                (host.askingLaunch.submit Ezsp.launchBootloader [Ezsp.normalMode]).2 ∨
            ¬ (entry = .upload ∧ host.active = .link ∧ host.link.connected = true) ∧
              (host.switchMode requested).2 = host.enterBootloader entry)) := by
  rw [switchMode]
  split
  · exact .inl rfl
  · next entry legal =>
    refine .inr ⟨entry, legal, ?_⟩
    by_cases opened : host.opened = true
    · refine .inr ⟨opened, ?_⟩
      rw [if_neg (not_not_intro opened)]
      split
      · next carried => exact .inl ⟨carried, rfl⟩
      · next other => exact .inr ⟨other, rfl⟩
    · rw [if_pos opened]
      exact .inl rfl

end Host
end NcpHost
