import NcpHost.Proofs.Host.Steady

/-! Which modes follow which. The request for a mode is checked long before the mode is
entered, and what was asked for may be out of date by then: the port may have been closed
and opened, the launch may be answered twice. What keeps the modes in order all the same is
that a host which enters the bootloader forgets what it was to do there before. -/
namespace NcpHost
namespace Host

variable {host host' : Host}

/-- What the mode depends on whatever is being handled. A wait for the first reset does not
last until the host is on the way back to the application. -/
structure Moded (host : Host) : Prop where
  chained : Chained host
  counts : Counts host
  begun : host.opened = true → Journal.attempts host.world.journal ≠ 0
  early : Journal.attempts host.world.journal = 0 → host.mode ≠ .leaving
  first : Journal.attempts host.world.journal ≤ 1 → host.link.timer.running = true →
    host.link.connected = false → host.mode ≠ .leaving

/-- Where the mode stands once all that has come is handled. -/
structure Settled (host : Host) : Prop where
  up : host.CanSend → host.mode = .application
  upload : host.active = .console → host.pendingEntry = some .upload → host.Fits

theorem Moded.steady (moded : Moded host) (steady : Steady host host') : Moded host' where
  chained := moded.chained.still steady.mode steady.modeless
  counts := moded.counts.still steady.resetAttempts steady.attempts
  begun opened := by
    rw [steady.attempts]
    exact moded.begun (steady.opened ▸ opened)
  early none := by
    rw [steady.mode]
    exact moded.early (steady.attempts ▸ none)
  first few running down := by
    rw [steady.connected] at down
    rw [steady.mode]
    refine moded.first (steady.attempts ▸ few) ((steady.running running).resolve_right ?_) down
    exact fun up => absurd (down.symm.trans up) (by decide)

theorem Settled.steady (settled : Settled host) (steady : Steady host host') : Settled host' where
  up can := by
    rw [steady.mode]
    exact settled.up ⟨steady.opened ▸ can.opened, steady.active ▸ can.active,
      steady.connected ▸ can.connected⟩
  upload active pending :=
    (settled.upload (steady.active ▸ active) (steady.pendingEntry ▸ pending)).steady steady

theorem settled_of_application (mode : host.mode = .application) : Settled host where
  up _ := mode
  upload _ _ _ := by simp [mode]

/-- Without the port a host is settled. -/
theorem settled_of_cannot (cannot : ¬ host.CanSend) (active : host.active = .link) :
    Settled host where
  up can := absurd can cannot
  upload console := absurd (active.symm.trans console) (by decide)

theorem settled_of_console (active : host.active = .console)
    (upload : host.pendingEntry = some .upload → host.Fits) : Settled host where
  up can := absurd (active.symm.trans can.active) (by decide)
  upload _ := upload

theorem attempts_setMode (host : Host) (mode : Mode) :
    Journal.attempts (host.setMode mode).world.journal =
      Journal.attempts host.world.journal := by
  rcases host.setMode_cases mode with ⟨-, same⟩ | ⟨-, changed⟩
  · rw [same]
  · rw [changed]
    exact Journal.attempts_record host.world _ nofun

/-- No reset is sent on the way to the bootloader. -/
theorem attempts_enterBootloader (host : Host) (goal : MenuEntry) :
    Journal.attempts (host.enterBootloader goal).world.journal =
      Journal.attempts host.world.journal := by
  have turned : Journal.attempts (host.turned goal).world.journal =
      Journal.attempts host.world.journal :=
    attempts_endWait host (.handedOver goal) nofun
  rw [enterBootloader_eq]
  dsimp only
  split
  · exact (attempts_setMode _ _).trans turned
  · exact turned

theorem Moded.setMode (moded : Moded host) {mode : Mode} (known : mode ≠ .unknown)
    (stays : mode ≠ .leaving) (upgrade : mode = .upgrading → host.Fits) :
    Moded (host.setMode mode) := by
  have chained := moded.chained.setMode known upgrade
  have attempts := attempts_setMode host mode
  have mode' := mode_setMode host mode
  have counts : Counts (host.setMode mode) :=
    moded.counts.still (by rw [setMode_eq]) attempts
  refine ⟨chained, counts, ?_, ?_, ?_⟩
  · intro opened
    rw [attempts]
    exact moded.begun ((opened_setMode host mode).symm.trans opened)
  · intro _
    rw [mode']
    exact stays
  · intro _ _ _
    rw [mode']
    exact stays

theorem chained_enterBootloader (chained : Chained host) (goal : MenuEntry) :
    Chained (host.enterBootloader goal) := by
  have turned : Chained (host.turned goal) :=
    chained.still rfl (modeless_endWait host _ rfl)
  rw [enterBootloader_eq]
  dsimp only
  split
  · next leaving =>
    subst leaving
    have left : Chained ((host.turned .run).setMode .leaving) :=
      turned.setMode (by decide) (by intro other; cases other)
    exact left.still rfl (.refl _)
  · exact turned.still rfl (.refl _)

/-- A host that enters the bootloader waits for no reset any more. -/
theorem Moded.enterBootloader (moded : Moded host) {goal : MenuEntry}
    (begun : goal = .run → Journal.attempts host.world.journal ≠ 0) :
    Moded (host.enterBootloader goal) := by
  refine ⟨chained_enterBootloader moded.chained goal, ?_, ?_, ?_, ?_⟩
  · refine moded.counts.still ?_ (attempts_enterBootloader host goal)
    rw [enterBootloader_shape]
    rfl
  · intro opened
    rw [enterBootloader_shape] at opened
    rw [attempts_enterBootloader]
    exact moded.begun opened
  · intro none
    rw [attempts_enterBootloader] at none
    cases goal with
    | run => exact absurd none (begun rfl)
    | upload => exact moded.early none
  · intro _ running
    rw [enterBootloader_shape] at running
    cases running

theorem settled_enterBootloader {goal : MenuEntry} (fits : goal = .upload → host.Fits) :
    Settled (host.enterBootloader goal) := by
  refine settled_of_console (active_enterBootloader host goal) fun pending => ?_
  cases goal with
  | run =>
    rw [enterBootloader_eq, if_pos rfl, setMode_eq] at pending
    cases pending
  | upload =>
    rw [Fits, attempts_enterBootloader]
    exact fits rfl

/-- A reset counts, also in the host's own way. -/
theorem attempts_sendReset (opened : host.opened = true) :
    Journal.attempts host.sendReset.2.world.journal =
      Journal.attempts host.world.journal + 1 := by
  obtain ⟨notes, journal⟩ := Link.reset_journal host.link host.world
  rw [sendReset, if_pos opened]
  dsimp only
  rw [journal, Journal.attempts, List.countP_append, List.countP_cons]
  simp [Journal.attempts, Effect.transmission?, List.countP_map, Function.comp_def]

theorem Counts.reset (counts : Counts host) (opened : host.opened = true) :
    Counts host.sendReset.2 := by
  rw [Counts, attempts_sendReset opened, sendReset, if_pos opened]
  dsimp only
  rw [counts, UInt32.ofNat_add]
  rfl

/-- A reset takes the link down; only the first one finds no mode known. -/
theorem moded_sendReset (chained : Chained host) (counts : Counts host)
    (early : Journal.attempts host.world.journal = 0 → host.mode ≠ .leaving)
    (opened : host.opened = true) : Moded host.sendReset.2 := by
  have modeless : Modeless host.world host.sendReset.2.world := by
    rw [sendReset, if_pos opened]
    exact host.link.adds_reset host.world (fun _ => rfl) fun _ _ => rfl
  have mode : host.sendReset.2.mode = host.mode := by
    rw [sendReset, if_pos opened]
  have attempts := attempts_sendReset opened
  refine ⟨chained.still mode modeless, counts.reset opened, fun _ => ?_, fun none => ?_, ?_⟩
  · rw [attempts]
    exact Nat.succ_ne_zero _
  · rw [attempts] at none
    exact absurd none (Nat.succ_ne_zero _)
  · intro few _ _
    rw [attempts] at few
    rw [mode]
    exact early (Nat.le_zero.mp (Nat.le_of_succ_le_succ few))

theorem settled_sendReset (active : host.active = .link) : Settled host.sendReset.2 :=
  settled_of_cannot (cannot_sendReset host) ((active_sendReset host).trans active)

/-- The link being up, the application runs. -/
theorem handleConnected_moded (moded : Moded host) (code : Wire.ResetCode) :
    Moded (host.handleConnected code) ∧ Settled (host.handleConnected code) := by
  have noted : Steady host (host.note (.linkUp code)) := (Steady.refl host).note _
  have shown : Steady ((host.note (.linkUp code)).setMode .application) (host.ready code) :=
    (Steady.refl _).record trivial
  have running : Moded (host.ready code) :=
    ((moded.steady noted).setMode (by decide) (by decide)
      (by intro other; cases other)).steady shown
  have application : (host.ready code).mode = .application := shown.mode.trans (mode_setMode _ _)
  have flushed : Steady (host.ready code) (host.handleConnected code) := by
    rcases host.handleConnected_cases code with same | same
    · rw [same]
      exact (Routine.resend _ _).steady
    · rw [same]
      exact ((Steady.refl _).note _).trans (Routine.resend _ _).steady
  exact ⟨running.steady flushed, settled_of_application (flushed.mode.trans application)⟩

/-- Events that come of bytes: no wait expires while bytes are read. -/
theorem resetFailed_not_mem (link : Link) (world : World) (bytes : List UInt8) :
    .resetFailed ∉ (link.receive world bytes).1 := by
  rw [Link.receive_events, List.mem_filterMap]
  rintro ⟨signal, -, event⟩
  cases signal <;> cases event

theorem handleLinkEvent_cases (host : Host) {event : LinkEvent} (other : event ≠ .resetFailed) :
    Steady host (host.handleLinkEvent event) ∨
      (host.waiting = true ∧ ∃ before, Steady host before ∧
        host.handleLinkEvent event = before.enterBootloader .upload) ∨
      ∃ code, event = .connected code := by
  cases event with
  | payload data =>
    rcases payload_steady_or_enters host data with steady | launched
    · exact .inl steady
    · exact .inr (.inl launched)
  | connected code => exact .inr (.inr ⟨code, rfl⟩)
  | nakObserved number =>
    exact .inl (((Steady.refl host).note _).trans (Routine.resend _ _).steady)
  | resetFailed => exact absurd rfl other
  | ackObserved | ackMismatch | resetReceived => exact .inl (.refl host)
  | ackTimeout action => exact .inl (routine_ackTimeout host action).steady

theorem Moded.handleLinkEvent (moded : Moded host) {event : LinkEvent}
    (other : event ≠ .resetFailed) : Moded (host.handleLinkEvent event) := by
  rcases handleLinkEvent_cases host other with steady | ⟨-, before, steady, same⟩ | ⟨code, rfl⟩
  · exact moded.steady steady
  · rw [same]
    exact (moded.steady steady).enterBootloader (by intro other; cases other)
  · exact (handleConnected_moded moded code).1

/-- A command that is in flight finds the application running, so its answer does. -/
theorem Settled.handleLinkEvent {timeouts : Timeouts} (settled : Settled host)
    (sound : host.standing.Sound timeouts) (moded : Moded host) {event : LinkEvent}
    (other : event ≠ .resetFailed) : Settled (host.handleLinkEvent event) := by
  rcases handleLinkEvent_cases host other with
    steady | ⟨inFlight, before, steady, same⟩ | ⟨code, rfl⟩
  · exact settled.steady steady
  · obtain ⟨opened, active, connected, -⟩ := sound.carries inFlight
    have application := settled.up ⟨opened, active, connected⟩
    rw [same]
    refine settled_enterBootloader fun _ => fun _ => ?_
    rw [steady.mode, application]
    decide
  · exact (handleConnected_moded moded code).2

theorem sound_handleLinkEvent {timeouts : Timeouts} (sound : host.standing.Sound timeouts)
    (event : LinkEvent) : (host.handleLinkEvent event).standing.Sound timeouts := by
  have moves : Moves (some .link) host (host.handleLinkEvent event) :=
    moves_handleLinkEvent host event fun _ _ => rfl
  exact moves.preserves (fun _ _ move before => move.sound before) sound

theorem steady_tried (host : Host) (entry : MenuEntry) : Steady host (host.tried entry) :=
  ⟨rfl, rfl, rfl, rfl, rfl, rfl, .inl,
    host.console.adds_choose host.world entry (fun _ => trivial) fun _ _ => trivial⟩

theorem leaveBootloader_moded (moded : Moded host) (active : host.active = .console)
    (free : host.pendingEntry = none) :
    Moded host.leaveBootloader ∧ Settled host.leaveBootloader := by
  have settled : Settled host := settled_of_console active (by simp [free])
  have tried := steady_tried host .run
  rcases host.leaveBootloader_cases with ⟨-, same⟩ | ⟨opened, ⟨error, -, same⟩ | ⟨-, same⟩⟩
  · rw [same]
    exact ⟨moded, settled⟩
  · rw [same]
    exact ⟨moded.steady (tried.note _), settled.steady (tried.note _)⟩
  · let back := (host.tried .run).handedBack
    have record : Moded ((host.tried .run).record .handedBack) :=
      moded.steady (tried.record trivial)
    have handed : Moded back :=
      ⟨record.chained.still rfl (.refl _), record.counts, record.begun, record.early,
        record.first⟩
    have application : Moded (back.setMode .application) :=
      handed.setMode (by decide) (by decide) (by intro other; cases other)
    have reset := moded_sendReset application.chained application.counts application.early
      ((opened_setMode _ _).trans opened)
    have settled := settled_sendReset (active_setMode back .application)
    have failing : Steady (back.setMode .application).sendReset.2
        (attempt .resetAfterLeaving (back.setMode .application).sendReset) :=
      (Steady.refl _).attempt
    rw [same]
    exact ⟨reset.steady failing, settled.steady failing⟩

theorem startUpload_moded (moded : Moded host) (active : host.active = .console)
    (free : host.pendingEntry = none) (fits : host.Fits) :
    Moded host.startUpload ∧ Settled host.startUpload := by
  have settled : Settled host := settled_of_console active (by simp [free])
  have tried := steady_tried host .upload
  rcases host.startUpload_cases with ⟨-, same⟩ | ⟨-, ⟨error, -, same⟩ | ⟨-, same⟩⟩
  · rw [same]
    exact ⟨moded, settled⟩
  · rw [same]
    exact ⟨moded.steady (tried.note _), settled.steady (tried.note _)⟩
  · rw [same]
    refine ⟨(moded.steady tried).setMode (by decide) (by decide) fun _ => fits.steady tried, ?_⟩
    refine settled_of_console ((active_setMode _ _).trans active) fun _ _ => ?_
    rw [mode_setMode]
    decide

/-- The entry that is chosen at the prompt is the one for which the host turned to the
bootloader last. -/
theorem handleConsoleEvent_moded (moded : Moded host) (settled : Settled host)
    (choosing : host.Choosing) (event : Bootloader.ConsoleEvent) :
    Moded (host.handleConsoleEvent event) ∧ Settled (host.handleConsoleEvent event) := by
  cases event with
  | transferReady =>
    have reported : Steady host (host.report .transferReady) := (Steady.refl host).record trivial
    exact ⟨moded.steady reported, settled.steady reported⟩
  | promptDetected =>
    let seen := host.report (.promptSeen host.console.version)
    have reported : Steady host seen := (Steady.refl host).record trivial
    have clear : Moded host.prompted :=
      have moded := moded.steady reported
      ⟨moded.chained.still rfl (.refl _), moded.counts, moded.begun, moded.early, moded.first⟩
    have active (entry : MenuEntry) (pending : host.pendingEntry = some entry) :
        host.active = .console := choosing.resolve_right (by simp [pending])
    rcases host.prompt_cases with ⟨pending, same⟩ | ⟨pending, same⟩ | ⟨-, same⟩
    · rw [same]
      exact leaveBootloader_moded clear (active _ pending) rfl
    · rw [same]
      have fits := (settled.upload (active _ pending) pending).steady reported
      exact startUpload_moded clear (active _ pending) rfl fun whole => fits whole
    · rw [same]
      refine ⟨clear, (settled.steady reported).up ∘ fun can => ?_, by simp [prompted]⟩
      exact ⟨can.opened, can.active, can.connected⟩

theorem foldl_handleConsoleEvent_moded (events : List Bootloader.ConsoleEvent)
    (moded : Moded host) (settled : Settled host) (choosing : host.Choosing) :
    Moded (events.foldl handleConsoleEvent host) ∧
      Settled (events.foldl handleConsoleEvent host) := by
  induction events generalizing host with
  | nil => exact ⟨moded, settled⟩
  | cons event later ih =>
    obtain ⟨moded, settled⟩ := handleConsoleEvent_moded moded settled choosing event
    exact ih moded settled (choosing_handleConsoleEvent host event choosing)

theorem attempts_read (link : Link) (world : World) (bytes : List UInt8) :
    Journal.attempts (link.receive world bytes).2.2.journal =
      Journal.attempts world.journal :=
  Journal.attempts_eq_of_adds (link.adds_receive world bytes (fun _ _ => nofun) nofun)

/-- While bytes are read the link may come up and its timer may stop, nothing else. -/
theorem Moded.read (moded : Moded host) (bytes : List UInt8) :
    Moded { host with
      link := (host.link.receive host.world bytes).2.1
      world := (host.link.receive host.world bytes).2.2 } := by
  have attempts := attempts_read host.link host.world bytes
  refine ⟨moded.chained.still rfl (host.link.adds_receive host.world bytes (fun _ _ => rfl) rfl),
    moded.counts.still rfl attempts, ?_, ?_, ?_⟩
  · intro opened
    rw [attempts]
    exact moded.begun opened
  · intro none
    rw [attempts] at none
    exact moded.early none
  · intro few running down
    obtain ⟨running, down⟩ := Link.shaking_of_receive running down
    rw [attempts] at few
    exact moded.first few running down

theorem receive_moded {timeouts : Timeouts} (sound : host.standing.Sound timeouts)
    (moded : Moded host) (settled : Settled host) (bytes : List UInt8) :
    Moded (host.receive bytes) ∧ Settled (host.receive bytes) := by
  have heard : Steady host (host.record (.received bytes)) :=
    (Steady.refl host).record trivial
  have sound := sound.record (show (Effect.received bytes).IsQuiet from trivial)
  have moded := moded.steady heard
  have settled := settled.steady heard
  unfold receive
  dsimp only
  generalize host.record (.received bytes) = host at sound moded settled ⊢
  split
  · next active =>
    have other : ∀ event ∈ (host.link.receive host.world bytes).1, event ≠ .resetFailed :=
      fun event member same => resetFailed_not_mem _ _ _ (same ▸ member)
    have read : Move none host { host with
        link := (host.link.receive host.world bytes).2.1
        world := (host.link.receive host.world bytes).2.2 } := .read bytes active
    have handled := foldl_handleLinkEvent_restores
      (fun host => host.standing.Sound timeouts ∧ Moded host) Settled
      (host.link.receive host.world bytes).1
      (fun _ event member base =>
        ⟨sound_handleLinkEvent base.1 event, base.2.handleLinkEvent (other event member)⟩)
      (fun _ event member base settled =>
        settled.handleLinkEvent base.1 base.2 (other event member))
      (fun _ code base => (handleConnected_moded base.2 code).2)
      ⟨read.sound sound, moded.read bytes⟩ ?_
    · exact ⟨handled.1.2, handled.2⟩
    · by_cases told : ∃ code, .connected code ∈ (host.link.receive host.world bytes).1
      · exact .inr told
      · refine .inl ⟨fun can => settled.up ⟨can.opened, can.active, ?_⟩, ?_⟩
        · exact (Link.connected_told can.connected).resolve_right told
        · intro console pending
          rw [Fits, attempts_read]
          exact settled.upload console pending
  · next active =>
    have read : Steady host { host with
        console := (host.console.receive host.world.now bytes).console
        world := host.world.notes (host.console.receive host.world.now bytes).notes } :=
      ⟨rfl, rfl, rfl, rfl, rfl, rfl, .inl, (World.Adds.refl _).notes _ fun _ _ => trivial⟩
    exact foldl_handleConsoleEvent_moded _ (moded.steady read) (settled.steady read) (.inl active)

/-- The first reset has failed when the host turns to the bootloader of its own accord. -/
theorem handleResetFailed_moded (moded : Moded host) (settled : Settled host)
    (begun : Journal.attempts host.world.journal ≠ 0)
    (fits : Journal.attempts host.world.journal ≤ 1 → host.mode ≠ .leaving) :
    Moded host.handleResetFailed ∧ Settled host.handleResetFailed := by
  rcases host.handleResetFailed_cases with ⟨few, goal, same⟩ | ⟨-, same⟩
  · have noted : Steady host (host.note (.probingAfterReset goal.mode)) :=
      (Steady.refl host).note _
    have first : Fits host := fun whole => fits (moded.counts.le_one few whole)
    rw [same]
    exact ⟨(moded.steady noted).enterBootloader fun _ => noted.attempts ▸ begun,
      settled_enterBootloader fun _ => first.steady noted⟩
  · have silent : Steady host
        ((host.note (.adapterSilent host.resetAttempts.toNat)).report .adapterSilent) :=
      ((Steady.refl host).note _).record trivial
    rw [same]
    exact ⟨moded.steady silent, settled.steady silent⟩

theorem poll_moded {timeouts : Timeouts} (sound : host.standing.Sound timeouts)
    (moded : Moded host) (settled : Settled host) : Moded host.poll ∧ Settled host.poll := by
  have polled := Steady.polled host
  have link : Moded host.pollLink ∧ Settled host.pollLink := by
    rcases host.pollLink_cases with ⟨-, same⟩ | ⟨event, expired, same⟩
    · rw [same]
      exact ⟨moded.steady polled, settled.steady polled⟩
    · rw [same]
      obtain ⟨running, ⟨down, rfl⟩ | ⟨-, rfl⟩⟩ := Link.poll_some expired
      · have begun := moded.begun (sound.armed running).1
        have first few := moded.first few running down
        rw [← polled.attempts] at begun first
        exact handleResetFailed_moded (moded.steady polled) (settled.steady polled) begun first
      · have other : LinkEvent.ackTimeout host.link.policy.timeout.1 ≠ .resetFailed := by
          intro same
          cases same
        have after : Moves none host host.polled := .single .pollLink
        exact ⟨(moded.steady polled).handleLinkEvent other,
          (settled.steady polled).handleLinkEvent
            (after.preserves (fun _ _ move before => move.sound before) sound)
            (moded.steady polled) other⟩
  exact ⟨link.1.steady (Steady.pollConsole _), link.2.steady (Steady.pollConsole _)⟩

/-- An upload is asked for only outside the bootloader; the way back, only with the port. -/
theorem switchMode_moded (moded : Moded host) (settled : Settled host) (requested : Mode) :
    Moded (host.switchMode requested).2 ∧ Settled (host.switchMode requested).2 := by
  rcases host.switchMode_cases requested with
    same | ⟨entry, legal, same | ⟨opened, ⟨-, same⟩ | ⟨-, same⟩⟩⟩
  · rw [same]
    exact ⟨moded.steady ((Steady.refl host).note _), settled.steady ((Steady.refl host).note _)⟩
  · rw [same]
    exact ⟨moded, settled⟩
  · have launching : Steady host host.askingLaunch :=
      ((Steady.refl host).note .launching).trans ⟨rfl, rfl, rfl, rfl, rfl, rfl, .inl, .refl _⟩
    have asked := launching.trans
      (Routine.submit _ Ezsp.launchBootloader [Ezsp.normalMode]).steady
    rw [same]
    exact ⟨moded.steady asked, settled.steady asked⟩
  · have fits : entry = .upload → host.Fits := by
      rintro rfl - leaving
      cases requested <;> simp [entryFor, leaving] at legal
    rw [same]
    exact ⟨moded.enterBootloader fun _ => moded.begun opened, settled_enterBootloader fits⟩

theorem step_moded {timeouts : Timeouts} (sound : host.standing.Sound timeouts)
    (moded : Moded host) (settled : Settled host) (operation : Operation) :
    Moded (host.step operation) ∧ Settled (host.step operation) := by
  have changed {after : Host} (steady : Steady host after) : Moded after ∧ Settled after :=
    ⟨moded.steady steady, settled.steady steady⟩
  cases operation with
  | openPort =>
    let taken : Host := { (host.note (.opening host.world.port.name)).record .handedBack with
      opened := true
      active := .link }
    have noted : Steady host ((host.note (.opening host.world.port.name)).record .handedBack) :=
      ((Steady.refl host).note _).record trivial
    have opening : Moded ((host.note (.opening host.world.port.name)).record .handedBack) :=
      moded.steady noted
    have chained : Chained taken := opening.chained.still rfl (.refl _)
    exact ⟨moded_sendReset chained opening.counts opening.early rfl, settled_sendReset rfl⟩
  | closePort =>
    have attempts : Journal.attempts host.closePort.2.world.journal =
        Journal.attempts host.world.journal :=
      attempts_endWait host .handedBack nofun
    refine ⟨⟨moded.chained.still rfl (modeless_endWait host _ rfl),
      moded.counts.still rfl attempts, ?_, ?_, ?_⟩,
      settled_of_cannot (fun can => absurd can.opened Bool.false_ne_true) rfl⟩
    · intro opened
      contradiction
    · intro none
      exact moded.early (attempts ▸ none)
    · intro _ running
      contradiction
  | submit id parameters => exact changed (Routine.submit host id parameters).steady
  | receive bytes => exact receive_moded sound moded settled bytes
  | switchMode requested => exact switchMode_moded moded settled requested
  | poll => exact poll_moded sound moded settled
  | forceUpgrade | fireLink | fireConsole | port =>
    exact changed ⟨rfl, rfl, rfl, rfl, rfl, rfl, .inl, .refl _⟩

theorem sound_step {timeouts : Timeouts} (sound : host.standing.Sound timeouts)
    (operation : Operation) : (host.step operation).standing.Sound timeouts :=
  have ⟨_, holds⟩ := run_of_moves (P := fun _ host => host.standing.Sound timeouts)
    (fun _ _ _ move before => move.sound before) (fun _ _ _ before => before.record trivial)
    none sound [operation]
  holds

theorem moded_run {timeouts : Timeouts} (sound : host.standing.Sound timeouts)
    (moded : Moded host) (settled : Settled host) (history : List Operation) :
    Moded (host.run history) ∧ Settled (host.run history) := by
  induction history generalizing host with
  | nil => exact ⟨moded, settled⟩
  | cons operation later ih =>
    obtain ⟨moded, settled⟩ := step_moded sound moded settled operation
    exact ih (sound_step sound operation) moded settled

theorem moded_start (settings : Settings) (port : Port) (now : Nat) :
    Moded (ofSettings settings { port, now }) := by
  refine ⟨⟨rfl, .nil⟩, rfl, ?_, fun _ => ?_, fun _ _ _ => ?_⟩
  · intro opened
    contradiction
  all_goals
    intro leaving
    cases leaving

theorem settled_start (settings : Settings) (port : Port) (now : Nat) :
    Settled (ofSettings settings { port, now }) :=
  settled_of_cannot (fun can => absurd can.opened Bool.false_ne_true) rfl

theorem settled_run (settings : Settings) (port : Port) (now : Nat) (history : List Operation) :
    Settled ((ofSettings settings { port, now }).run history) :=
  (moded_run (sound_run settings port now []) (moded_start settings port now)
    (settled_start settings port now) history).2

/-- Over any history the reported changes of mode form a chain: the first starts with no
mode known, each one starts where the one before it ended and leads to another mode, and the
last ends at the mode of the host. None leads back to where nothing is known, and the upload
is entered only from there or from the running application; but the 32 bits in which the host
counts its resets must not have wrapped for that. Between any two operations a host with an
open port and an up link that has it is in the mode of the application. -/
theorem modes_in_order (settings : Settings) (port : Port) (now : Nat)
    (history : List Operation) :
    let host := (ofSettings settings { port, now }).run history
    Journal.mode host.world.journal = host.mode ∧
    (∀ before old new after,
      host.world.journal = before ++ .reported (.modeChanged old new) :: after →
        old = Journal.mode before ∧ old ≠ new ∧ new ≠ .unknown ∧
          (new = .upgrading → Journal.attempts before < UInt32.size →
            old = .unknown ∨ old = .application)) ∧
    (host.opened = true → host.active = .link → host.link.connected = true →
      host.mode = .application) := by
  intro host
  obtain ⟨moded, settled⟩ := moded_run (sound_run settings port now [])
    (moded_start settings port now) (settled_start settings port now) history
  refine ⟨moded.chained.mode, ?_, fun opened active up => settled.up ⟨opened, active, up⟩⟩
  intro before old new after split
  exact moded.chained.lawful before _ after split old new rfl

/-- The application is left for the upload. -/
theorem modes_in_order_to_upload :
    let menu := Bootloader.header ++ [Bootloader.newline] ++ Bootloader.prompt
    let history : List Operation := [.openPort, .receive (Wire.Frame.resetAck .powerOn).wire,
      .switchMode .upgrading,
      .receive (Wire.Frame.data 0 1 false
        [0x00, 0x80, 0xFF, 0x00, Ezsp.launchBootloader, 0x00]).wire,
      .fireConsole, .poll, .receive menu]
    let journal := ((ofSettings {} { port := { name := "line" } }).run history).world.journal
    ∃ before old after, journal = before ++ .reported (.modeChanged old .upgrading) :: after ∧
      Journal.attempts before = 1 ∧ old = Journal.mode before ∧
        (old = .unknown ∨ old = .application) := by
  intro menu history journal
  have split : journal = journal.take 27 ++
      .reported (.modeChanged .application .upgrading) :: journal.drop 28 := by
    decide +kernel
  have one : Journal.attempts (journal.take 27) = 1 := by
    decide +kernel
  obtain ⟨-, changes, -⟩ := modes_in_order {} { name := "line" } 0 history
  obtain ⟨chained, -, -, entered⟩ := changes _ _ _ _ split
  exact ⟨_, _, _, split, one, chained, entered rfl (by rw [one]; decide)⟩

/-- The launch is answered when the host has been to the bootloader and back already. -/
example :
    let host := (ofSettings {} { port := { name := "line" } }).run
      [.openPort, .receive (Wire.Frame.resetAck .powerOn).wire, .switchMode .upgrading,
        .closePort, .openPort, .switchMode .upgrading, .switchMode .leaving, .closePort,
        .openPort, .receive (Wire.Frame.resetAck .powerOn).wire,
        .receive (Wire.Frame.data 0 1 false
          [0x00, 0x80, 0xFF, 0x00, Ezsp.launchBootloader, 0x00]).wire]
    host.world.journal.filterMap Effect.reached? = [.application, .leaving, .application] ∧
      host.active = .console ∧ host.pendingEntry = some .upload := by
  decide +kernel

end Host
end NcpHost
