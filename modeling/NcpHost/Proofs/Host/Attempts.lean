import NcpHost.Proofs.Host.Dialogue

/-! How often each step of the dialogue with the bootloader is tried. The probe is handed to
the port when the line is quiet, the choice when a prompt shows, and neither again before the
port is handed over anew. The console reaches the stages of the upload only by a choice that
the port accepted; but it goes on from the flush whatever became of the probe, and the host
forgets what it came for whatever became of the choice. -/
namespace NcpHost

open Bootloader

/-- The upload is under way. -/
def Bootloader.Stage.PastMenu (stage : Stage) : Prop :=
  stage = .awaitingReceiver ∨ stage = .transferring

theorem Bootloader.Stage.pastMenu_iff {stage : Stage} :
    stage.PastMenu ↔ stage ≠ .flushing ∧ ¬ stage.IsMenu := by
  cases stage <;> simp [PastMenu, IsMenu]

theorem WriteOutcome.isOk_complete {outcome : WriteOutcome} {expected : Nat} :
    (outcome.complete expected).isOk = true ↔ outcome = .accepted expected := by
  cases outcome with
  | refused error => simp [complete, Except.isOk, Except.toBool]
  | accepted count =>
    by_cases whole : count = expected <;> simp [complete, whole, Except.isOk, Except.toBool]

/-- How an attempt to put `what` on the line ended. -/
def Effect.outcome? (what : Transmission) : Effect → Option WriteOutcome
  | .sent other outcome => if other = what then some outcome else none
  | _ => none

namespace Journal

/-- How the attempts to put `what` on the line ended. -/
def outcomes (journal : List Effect) (what : Transmission) : List WriteOutcome :=
  journal.filterMap (Effect.outcome? what)

variable {added : List Effect}

theorem outcomes_append (front back : List Effect) (what : Transmission) :
    outcomes (front ++ back) what = outcomes front what ++ outcomes back what :=
  List.filterMap_append

theorem outcomes_of_passive (each : ∀ entry ∈ added, entry.IsPassive) :
    outcomes added .probe = [] ∧ ∀ entry, outcomes added (.choice entry) = [] := by
  have untried (what : Transmission) (own : ∀ outcome, ¬ (Effect.sent what outcome).IsPassive) :
      outcomes added what = [] := by
    refine List.filterMap_eq_nil_iff.mpr fun effect member => ?_
    cases effect with
    | sent other outcome =>
      refine if_neg ?_
      rintro rfl
      exact own outcome (each _ member)
    | received | reported | noted | queued | answered | handedOver | handedBack | waitEnded => rfl
  exact ⟨untried .probe fun _ => id, fun entry => untried (.choice entry) fun _ => id⟩

theorem outcomes_append_passive (late : List Effect) (each : ∀ entry ∈ added, entry.IsPassive) :
    outcomes (late ++ added) .probe = outcomes late .probe ∧
      ∀ entry, outcomes (late ++ added) (.choice entry) = outcomes late (.choice entry) := by
  obtain ⟨unprobed, unchosen⟩ := outcomes_of_passive each
  refine ⟨?_, fun entry => ?_⟩
  · rw [outcomes_append, unprobed, List.append_nil]
  · rw [outcomes_append, unchosen, List.append_nil]

end Journal

namespace Host

variable {host host' : Host} {goal : MenuEntry} {late added : List Effect} {timeouts : Timeouts}

/-- How far the host is in the dialogue for `goal` when `late` is in the journal since it
began. -/
structure Underway (host : Host) (goal : MenuEntry) (late : List Effect) : Prop where
  since : Journal.Since host.world.journal goal late
  quiet : host.console.timer.running = true ↔ host.console.stage = .flushing
  unprobed : host.console.stage = .flushing → Journal.outcomes late .probe = []
  probed : host.console.stage ≠ .flushing → ∃ outcome, Journal.outcomes late .probe = [outcome]
  choice :
    host.pendingEntry = some goal ∧ (∀ entry, Journal.outcomes late (.choice entry) = []) ∧
      ¬ host.console.stage.PastMenu ∨
    host.pendingEntry = none ∧ ∃ outcome,
      (∀ entry, Journal.outcomes late (.choice entry) = if entry = goal then [outcome] else []) ∧
      (outcome = .accepted 1 ↔ host.console.stage.PastMenu)

/-- A host whose console has the port has a port, and is in a dialogue. -/
def Engaged (host : Host) : Prop :=
  host.active = .console → host.opened = true ∧ ∃ goal late, Underway host goal late

theorem engaged_of_link (link : host.active = .link) : Engaged host := by
  intro active
  rw [link] at active
  cases active

/-- A dialogue goes on for as long as nothing is tried in it. -/
theorem Underway.append (underway : Underway host goal late)
    (journal : host'.world.journal = host.world.journal ++ added)
    (each : ∀ entry ∈ added, entry.IsPassive)
    (pending : host'.pendingEntry = host.pendingEntry)
    (running : host'.console.timer.running = host.console.timer.running)
    (flushing : host'.console.stage = .flushing ↔ host.console.stage = .flushing)
    (past : host'.console.stage.PastMenu ↔ host.console.stage.PastMenu) :
    Underway host' goal (late ++ added) := by
  obtain ⟨unprobed, unchosen⟩ := Journal.outcomes_append_passive late each
  refine ⟨?_, ?_, ?_, ?_, ?_⟩
  · rw [journal]
    exact underway.since.append (fun _ => each _) (each _)
  · rw [running, flushing]
    exact underway.quiet
  · rw [flushing, unprobed]
    exact underway.unprobed
  · rw [ne_eq, flushing, unprobed]
    exact underway.probed
  · rw [pending, past]
    simp only [unchosen]
    exact underway.choice

/-- The console has probed, whatever became of it. -/
theorem Underway.probe {outcome : WriteOutcome} (underway : Underway host goal late)
    (flushing : host.console.stage = .flushing)
    (journal : host'.world.journal = host.world.journal ++ [.sent .probe outcome])
    (pending : host'.pendingEntry = host.pendingEntry)
    (still : host'.console.timer.running = false) (probing : host'.console.stage = .probing) :
    Underway host' goal (late ++ [.sent .probe outcome]) := by
  have unchosen (entry : MenuEntry) :
      Journal.outcomes (late ++ [.sent .probe outcome]) (.choice entry) =
        Journal.outcomes late (.choice entry) := by
    rw [Journal.outcomes_append]
    exact List.append_nil _
  refine ⟨?_, ?_, ?_, ?_, ?_⟩
  · rw [journal]
    exact underway.since.append (by simp) (by simp)
  · simp [still, probing]
  · simp [probing]
  · intro _
    refine ⟨outcome, ?_⟩
    rw [Journal.outcomes_append, underway.unprobed flushing]
    rfl
  · have before := underway.choice
    rw [flushing] at before
    rw [pending, probing]
    simp only [unchosen]
    simpa [Stage.PastMenu] using before

/-- The host has tried to choose what it came for, and forgets that. -/
theorem Underway.choose {entry : MenuEntry} {outcome : WriteOutcome}
    (underway : Underway host goal late) (pending : host.pendingEntry = some entry)
    (journal : host'.world.journal =
      host.world.journal ++ .sent (.choice entry) outcome :: added)
    (each : ∀ entry ∈ added, entry.IsPassive) (free : host'.pendingEntry = none)
    (running : host'.console.timer.running = host.console.timer.running)
    (flushing : host'.console.stage = .flushing ↔ host.console.stage = .flushing)
    (past : outcome = .accepted 1 ↔ host'.console.stage.PastMenu) :
    Underway host' goal (late ++ .sent (.choice entry) outcome :: added) := by
  obtain ⟨due, untried, -⟩ | ⟨none, -⟩ := underway.choice
  swap
  · rw [pending] at none
    cases none
  obtain rfl : entry = goal := Option.some.inj (pending.symm.trans due)
  obtain ⟨unprobed, unchosen⟩ := Journal.outcomes_of_passive each
  have probes : Journal.outcomes (late ++ .sent (.choice entry) outcome :: added) .probe =
      Journal.outcomes late .probe := by
    rw [Journal.outcomes_append]
    exact (congrArg _ unprobed).trans (List.append_nil _)
  have choices (other : MenuEntry) :
      Journal.outcomes (late ++ .sent (.choice entry) outcome :: added) (.choice other) =
        if other = entry then [outcome] else [] := by
    have rest : added.filterMap (Effect.outcome? (.choice other)) = [] := unchosen other
    rw [Journal.outcomes_append, untried, Journal.outcomes, List.filterMap_cons, rest]
    by_cases own : other = entry
    · simp [Effect.outcome?, own]
    · simp [Effect.outcome?, own, Ne.symm own]
  refine ⟨?_, ?_, ?_, ?_, .inr ⟨free, outcome, choices, past⟩⟩
  · rw [journal]
    refine underway.since.append (fun other member => ?_) fun member => ?_
    · exact each _ ((List.mem_cons.mp member).resolve_left (by simp))
    · exact each _ ((List.mem_cons.mp member).resolve_left (by simp))
  · rw [running, flushing]
    exact underway.quiet
  · rw [flushing, probes]
    exact underway.unprobed
  · rw [ne_eq, flushing, probes]
    exact underway.probed

theorem Engaged.still (engaged : Engaged host) (opened : host'.opened = host.opened)
    (active : host'.active = host.active) (pending : host'.pendingEntry = host.pendingEntry)
    (running : host'.console.timer.running = host.console.timer.running)
    (stage : host'.console.stage = host.console.stage)
    (adds : World.Adds Effect.IsPassive host.world host'.world) : Engaged host' := by
  intro has
  obtain ⟨holds, goal, late, underway⟩ := engaged (active ▸ has)
  obtain ⟨added, journal, each⟩ := adds
  exact ⟨opened.trans holds, goal, _, underway.append journal each pending running (by rw [stage])
    (by rw [stage])⟩

theorem Engaged.record (engaged : Engaged host) {effect : Effect} (passive : effect.IsPassive) :
    Engaged (host.record effect) :=
  engaged.still rfl rfl rfl rfl rfl ((World.Adds.refl _).record passive)

theorem Engaged.note (engaged : Engaged host) {note : Note}
    (passive : (Effect.noted note).IsPassive) : Engaged (host.note note) :=
  engaged.record passive

theorem Engaged.report (engaged : Engaged host) (event : Event) : Engaged (host.report event) :=
  engaged.record (show (Effect.reported event).IsPassive from trivial)

theorem Engaged.routine (engaged : Engaged host) (routine : Routine host host') :
    Engaged host' :=
  engaged.still routine.opened routine.active routine.pendingEntry
    (congrArg (·.timer.running) routine.console) (congrArg (·.stage) routine.console)
    (routine.adds.mono fun _ own => own.isMinor.isPassive)

theorem Engaged.attempt {undertaking : Undertaking} {result : Except HostError Unit × Host}
    (engaged : Engaged result.2) : Engaged (attempt undertaking result) := by
  rcases attempt_cases undertaking result with same | ⟨error, same⟩
  · rw [same]
    exact engaged
  · rw [same]
    exact engaged.note trivial

theorem Engaged.setMode (engaged : Engaged host) (mode : Mode) : Engaged (host.setMode mode) := by
  have minor := (minor_setMode host mode).mono fun _ own => own.isPassive
  rw [setMode_eq] at minor ⊢
  exact engaged.still rfl rfl rfl rfl rfl minor

/-- A dialogue begins with the flush, and nothing has been tried yet. -/
theorem engaged_enterBootloader (opened : host.opened = true) (goal : MenuEntry) :
    Engaged (host.enterBootloader goal) := by
  let begun := { host.turned goal with console := (host.enterBootloader goal).console }
  obtain ⟨now, reset⟩ := console_enterBootloader host goal
  have flushing : begun.console.stage = .flushing := by
    simp only [begun, reset]
    rfl
  have running : begun.console.timer.running = true := by
    simp only [begun, reset]
    rfl
  have journal : begun.world.journal =
      host.world.journal ++ [.waitEnded] ++ [.handedOver goal] := rfl
  have entered : Engaged begun := by
    intro _
    refine ⟨opened, goal, [], ⟨⟨_, journal⟩, by simp, by simp⟩, ?_, ?_, ?_, ?_⟩
    · exact iff_of_true running flushing
    · exact fun _ => rfl
    · exact fun other => absurd flushing other
    · exact .inl ⟨rfl, fun _ => rfl, by simp [flushing, Stage.PastMenu]⟩
  refine entered.still ?_ ?_ ?_ rfl rfl
    ((minor_enterBootloader host goal).mono fun _ own => own.isPassive)
  all_goals rw [enterBootloader_shape]

theorem Engaged.read (engaged : Engaged host) (bytes : List UInt8) :
    Engaged (host.read bytes) := by
  have rest := (reads_read host bytes).rest
  intro has
  have active : host.active = .console := by
    rw [rest] at has
    exact has
  obtain ⟨opened, goal, late, underway⟩ := engaged active
  obtain ⟨told, journal, each⟩ := minor_read host bytes
  have journal : (host.read bytes).world.journal =
      host.world.journal ++ .received bytes :: told := by
    rw [journal]
    simp [Host.record]
  have passive : ∀ entry ∈ Effect.received bytes :: told, entry.IsPassive :=
    List.forall_mem_cons.mpr ⟨trivial, fun entry member => (each entry member).isPassive⟩
  obtain ⟨flushing, menu⟩ := Console.stage_receive host.console host.world.now bytes
  refine ⟨?_, goal, _, underway.append journal passive ?_ ?_ ?_ ?_⟩
  · rw [rest]
    exact opened
  · rw [rest]
  all_goals rw [reading_read active]
  · rw [Console.timer_receive]
    split
    · next still => exact (underway.quiet.mpr still).symm
    · rfl
  · exact flushing
  · rw [Stage.pastMenu_iff, Stage.pastMenu_iff, ne_eq, flushing, menu]

theorem poll_of_due {console : Console} (running : console.timer.running = true)
    (due : console.timer.due = true) (flushing : console.stage = .flushing) (world : World) :
    (console.poll world).2 = ({ console with timer := console.timer.stop, stage := .probing },
      (world.transmit .probe).2) := by
  simp [Console.poll, Timer.collect_of_due running due, flushing]

theorem poll_of_early {console : Console}
    (early : ¬ (console.timer.running = true ∧ console.timer.due = true)) (world : World) :
    (console.poll world).2 = (console, world) := by
  have nothing : console.timer.collect = (false, console.timer) := by
    simp [Timer.collect, early]
  simp [Console.poll, nothing]

theorem Engaged.probe (engaged : Engaged host) (active : host.active = .console) :
    Engaged host.probed := by
  intro _
  obtain ⟨opened, goal, late, underway⟩ := engaged active
  refine ⟨opened, goal, ?_⟩
  by_cases due : host.console.timer.running = true ∧ host.console.timer.due = true
  · have flushing := underway.quiet.mp due.1
    have polled := poll_of_due due.1 due.2 flushing host.world
    have journal : host.probed.world.journal = host.world.journal ++
        [.sent .probe (host.world.port.write Transmission.probe.bytes).1] :=
      congrArg (·.2.journal) polled
    exact ⟨_, underway.probe flushing journal rfl (congrArg (·.1.timer.running) polled)
      (congrArg (·.1.stage) polled)⟩
  · have polled := poll_of_early due host.world
    have same : host.probed = host := by
      rw [probed, polled]
    rw [same]
    exact ⟨late, underway⟩

theorem Engaged.pollConsole (engaged : Engaged host) : Engaged host.pollConsole := by
  rcases host.pollConsole_cases with same | ⟨active, -, same | ⟨error, same⟩⟩
  · rw [same]
    exact engaged
  · rw [same]
    exact engaged.probe active
  · rw [same]
    exact (engaged.probe active).note trivial

/-- At a prompt the choice is handed to the port; the console goes on if the port accepted it,
and else stands where it stood. -/
theorem choose_cases {console : Console} (shown : console.stage = .promptSeen) (world : World)
    (entry : MenuEntry) :
    let outcome := (world.port.write (Transmission.choice entry).bytes).1
    let sent := (world.transmit (.choice entry)).2
    (outcome ≠ .accepted 1 ∧ ∃ error,
      console.choose world entry = (.error (.port error), console, sent)) ∨
    (outcome = .accepted 1 ∧ (console.choose world entry).1 = .ok () ∧
      (entry = .upload → console.choose world entry =
        (.ok (), { console with stage := .awaitingReceiver, buffer := [] },
          sent.note .uploadChosen))) := by
  intro outcome sent
  have result : (world.transmit (.choice entry)).1 = outcome.complete 1 := by
    cases entry <;> rfl
  have taken : world.transmit (.choice entry) = (outcome.complete 1, sent) := by
    rw [← result]
  unfold Console.choose
  rw [if_pos shown, taken]
  cases whole : outcome.complete 1 with
  | error error =>
    refine .inl ⟨fun accepted => ?_, error, rfl⟩
    rw [accepted] at whole
    cases whole
  | ok =>
    refine .inr ⟨WriteOutcome.isOk_complete.mp (by rw [whole]; rfl), ?_, ?_⟩
    · cases entry <;> rfl
    · rintro rfl
      rfl

/-- A refused choice leaves the console at the prompt, and the host without what it came for. -/
theorem Engaged.refused (engaged : Engaged host) {entry : MenuEntry}
    (pending : host.pendingEntry = some entry) (active : host.active = .console)
    (shown : host.console.stage = .promptSeen) {error : ConsoleError}
    (failed : (host.console.choose host.world entry).1 = .error error) (note : Note)
    (passive : (Effect.noted note).IsPassive) : Engaged ((host.chosen entry).note note) := by
  intro _
  obtain ⟨opened, goal, late, underway⟩ := engaged active
  rcases choose_cases shown host.world entry with ⟨refused, cause, same⟩ | ⟨-, done, -⟩
  · have console : (host.chosen entry).console = host.console := congrArg (·.2.1) same
    have world : (host.chosen entry).world = (host.world.transmit (.choice entry)).2 :=
      congrArg (·.2.2) same
    have journal : ((host.chosen entry).note note).world.journal = host.world.journal ++
        .sent (.choice entry) (host.world.port.write (Transmission.choice entry).bytes).1 ::
          [.noted note] := by
      show (host.chosen entry).world.journal ++ [.noted note] = _
      rw [world, World.journal_transmit, List.append_assoc]
      rfl
    refine ⟨opened, goal, _, underway.choose pending journal (by simpa using passive) rfl ?_ ?_ ?_⟩
    · exact congrArg (·.timer.running) console
    · exact iff_of_eq (congrArg (·.stage = .flushing) console)
    · refine iff_of_false refused ?_
      show ¬ (host.chosen entry).console.stage.PastMenu
      rw [console, shown]
      simp [Stage.PastMenu]
  · rw [done] at failed
    cases failed

/-- An accepted choice of the upload leads past the menu. -/
theorem Engaged.upload (engaged : Engaged host) (pending : host.pendingEntry = some .upload)
    (active : host.active = .console) (shown : host.console.stage = .promptSeen)
    (done : (host.console.choose host.world .upload).1 = .ok ()) :
    Engaged (host.chosen .upload) := by
  intro _
  obtain ⟨opened, goal, late, underway⟩ := engaged active
  rcases choose_cases shown host.world .upload with ⟨-, cause, same⟩ | ⟨accepted, -, uploads⟩
  · rw [same] at done
    cases done
  · have same := uploads rfl
    have console : (host.chosen .upload).console =
        { host.console with stage := .awaitingReceiver, buffer := [] } := congrArg (·.2.1) same
    have world : (host.chosen .upload).world =
        (host.world.transmit (.choice .upload)).2.note .uploadChosen := congrArg (·.2.2) same
    have journal : (host.chosen .upload).world.journal = host.world.journal ++
        .sent (.choice .upload) (host.world.port.write (Transmission.choice .upload).bytes).1 ::
          [.noted .uploadChosen] := by
      rw [world]
      exact List.append_assoc _ _ _
    refine ⟨opened, goal, _, underway.choose pending journal ?_ rfl ?_ ?_ ?_⟩
    · simp [Effect.IsPassive]
    · rw [console]
    · rw [console, shown]
      simp
    · rw [console]
      exact iff_of_true accepted (.inl rfl)

/-- At a prompt the host does what it came for, if there is something left to do. -/
theorem Engaged.prompt (engaged : Engaged host)
    (ready : host.pendingEntry ≠ none →
      host.active = .console ∧ host.console.stage = .promptSeen) :
    Engaged (host.handleConsoleEvent .promptDetected) := by
  have seen : Engaged (host.report (.promptSeen host.console.version)) :=
    engaged.report _
  rcases host.prompt_cases with ⟨pending, same⟩ | ⟨pending, same⟩ | ⟨none, same⟩
  · obtain ⟨active, shown⟩ := ready (by simp [pending])
    obtain ⟨opened, -⟩ := engaged active
    rw [same]
    rcases host.prompted.leaveBootloader_cases with
      ⟨shut, -⟩ | ⟨-, ⟨error, failed, tried⟩ | ⟨-, tried⟩⟩
    · exact absurd (shut.symm.trans opened) Bool.false_ne_true
    · obtain ⟨cause, rfl⟩ := error_of_choose shown failed
      rw [tried]
      exact seen.refused pending active shown failed _ trivial
    · rw [tried]
      exact (engaged_of_link ((active_sendReset _).trans (active_setMode _ _))).attempt
  · obtain ⟨active, shown⟩ := ready (by simp [pending])
    obtain ⟨opened, -⟩ := engaged active
    rw [same]
    rcases host.prompted.startUpload_cases with
      ⟨shut, -⟩ | ⟨-, ⟨error, failed, tried⟩ | ⟨done, tried⟩⟩
    · exact absurd (shut.symm.trans opened) Bool.false_ne_true
    · obtain ⟨cause, rfl⟩ := error_of_choose shown failed
      rw [tried]
      exact seen.refused pending active shown failed _ trivial
    · rw [tried]
      exact (seen.upload pending active shown done).setMode .upgrading
  · rw [same]
    exact seen.still rfl rfl none.symm rfl rfl (.refl _)

theorem Engaged.foldl_handleConsoleEvent (events : List ConsoleEvent) (engaged : Engaged host)
    (atPrompt : host.AtPrompt events) : Engaged (events.foldl handleConsoleEvent host) := by
  induction events generalizing host with
  | nil => exact engaged
  | cons event later ih =>
    cases event with
    | transferReady =>
      refine ih (engaged.report _) fun pending member => ?_
      exact atPrompt pending (List.mem_cons_of_mem _ member)
    | promptDetected =>
      refine ih (engaged.prompt fun pending => atPrompt pending List.mem_cons_self) ?_
      exact fun pending => absurd (pendingEntry_prompt host) pending

/-- What is told of frames begins a dialogue, or leaves the one that goes on alone. -/
theorem Engaged.told {up : Bool} {frames : List Wire.Frame} {event : LinkEvent}
    (engaged : Engaged host) (sound : host.standing.Sound timeouts)
    (told : event ∈ Wire.Frame.told up frames) : Engaged (host.handleLinkEvent event) := by
  rcases Wire.Frame.mem_of_told told with ⟨payload, rfl⟩ | ⟨number, rfl, -⟩ | ⟨code, rfl, -⟩
  · rcases payload_routine_or_completes host payload with
      routine | ⟨inFlight, heard, response, command, later, routine, -, same⟩
    · exact engaged.routine routine
    · obtain ⟨opened, active, -⟩ := sound.carries inFlight
      have opened : heard.opened = true := routine.opened.trans opened
      have link : heard.active = .link := routine.active.trans active
      show Engaged (host.handlePayload payload)
      rw [same, complete_eq]
      split
      · refine engaged_enterBootloader ?_ .upload
        exact opened
      · have answered : Engaged (heard.answeredBy response command later) := engaged_of_link link
        exact answered.routine (Routine.sendNext _).attempt
  · have noted : Engaged (host.note (.nakReceived number)) := engaged.note trivial
    exact noted.routine (Routine.resend _ _)
  · have linkUp : Engaged (host.note (.linkUp code)) := engaged.note trivial
    have ready : Engaged (host.ready code) := (linkUp.setMode .application).report _
    rcases host.handleConnected_cases code with same | same
    · rw [handleLinkEvent, same]
      exact ready.routine (Routine.resend _ _)
    · rw [handleLinkEvent, same]
      have noted : Engaged ((host.ready code).note .resumingInterrupted) := ready.note trivial
      exact noted.routine (Routine.resend _ _)

theorem Engaged.foldl_told {up : Bool} {frames : List Wire.Frame} (events : List LinkEvent)
    (engaged : Engaged host) (sound : host.standing.Sound timeouts)
    (told : ∀ event ∈ events, event ∈ Wire.Frame.told up frames) :
    Engaged (events.foldl handleLinkEvent host) := by
  induction events generalizing host with
  | nil => exact engaged
  | cons event later ih =>
    obtain ⟨first, rest⟩ := List.forall_mem_cons.mp told
    exact ih (engaged.told sound first) (sound_handleLinkEvent sound event) rest

theorem Engaged.receive (engaged : Engaged host) (sound : host.standing.Sound timeouts)
    (bytes : List UInt8) : Engaged (host.receive bytes) := by
  have read := engaged.read bytes
  cases active : host.active with
  | link =>
    rw [receive_link active]
    exact read.foldl_told _ (sound_read sound active bytes) fun _ member => member
  | console =>
    rw [receive_console active]
    exact read.foldl_handleConsoleEvent _ (atPrompt_read active bytes)

theorem Engaged.pollLink (engaged : Engaged host) (sound : host.standing.Sound timeouts) :
    Engaged host.pollLink := by
  have polled : Engaged host.polled :=
    engaged.still rfl rfl rfl rfl rfl
      (host.link.adds_poll host.world fun note own => Effect.IsMinor.isPassive own)
  rcases host.pollLink_cases with ⟨-, same⟩ | ⟨event, expired, same⟩
  · rw [same]
    exact polled
  · obtain ⟨running, ⟨-, rfl⟩ | ⟨-, rfl⟩⟩ := Link.poll_some expired
    · rw [same]
      rcases host.polled.handleResetFailed_cases with ⟨-, goal, entered⟩ | ⟨-, silent⟩
      · rw [handleLinkEvent, entered]
        refine engaged_enterBootloader ?_ goal
        exact (sound.armed running).1
      · rw [handleLinkEvent, silent]
        have noted : Engaged (host.polled.note (.adapterSilent host.polled.resetAttempts.toNat)) :=
          polled.note trivial
        exact noted.report _
    · rw [same]
      exact polled.routine (routine_ackTimeout _ _)

theorem Engaged.switchMode (engaged : Engaged host) (requested : Mode) :
    Engaged (host.switchMode requested).2 := by
  rcases host.switchMode_cases requested with
    same | ⟨entry, -, same | ⟨opened, ⟨-, same⟩ | ⟨-, same⟩⟩⟩
  · rw [same]
    exact engaged.record trivial
  · rw [same]
    exact engaged
  · have asking : Engaged host.askingLaunch :=
      engaged.still rfl rfl rfl rfl rfl ((World.Adds.refl _).record trivial)
    rw [same]
    exact asking.routine (Routine.submit _ _ _)
  · rw [same]
    exact engaged_enterBootloader opened entry

theorem Engaged.step (engaged : Engaged host) (sound : host.standing.Sound timeouts)
    (operation : Operation) : Engaged (host.step operation) := by
  cases operation with
  | openPort => exact engaged_of_link (active_sendReset _)
  | closePort => exact engaged_of_link rfl
  | submit id parameters => exact engaged.routine (Routine.submit host id parameters)
  | receive bytes => exact engaged.receive sound bytes
  | switchMode requested => exact engaged.switchMode requested
  | poll => exact (engaged.pollLink sound).pollConsole
  | forceUpgrade | fireLink | fireConsole | port =>
    exact engaged.still rfl rfl rfl rfl rfl (.refl _)

theorem engaged_run (settings : Settings) (port : Port) (now : Nat) (history : List Operation) :
    Engaged ((ofSettings settings { port, now }).run history) := by
  induction history using List.reverseRecOn with
  | nil => exact engaged_of_link rfl
  | append_singleton front last ih =>
    rw [run_append]
    exact ih.step (sound_run settings port now front) last

/-- Over any history, whenever the console has the port: the port is open, and since it was
handed over, for `goal`, the quiet timer runs exactly until the flush is over, the probe has
been tried once if it is, whether the port accepted it or not, and the choice of `goal` has
been tried once unless it is still to be made, with no other choice. A choice that the port
refused has left the console where it was, and the host with nothing to choose; one that it
accepted has led past the menu. -/
theorem each_step_tried_once (settings : Settings) (port : Port) (now : Nat)
    (history : List Operation) :
    let host := (ofSettings settings { port, now }).run history
    host.active = .console → host.opened = true ∧ ∃ front goal late,
      host.world.journal = front ++ .handedOver goal :: late ∧
      (∀ other, .handedOver other ∉ late) ∧ .handedBack ∉ late ∧
      (host.console.timer.running = true ↔ host.console.stage = .flushing) ∧
      (host.console.stage = .flushing → Journal.outcomes late .probe = []) ∧
      (host.console.stage ≠ .flushing → ∃ outcome, Journal.outcomes late .probe = [outcome]) ∧
      (host.pendingEntry = some goal ∧ (∀ entry, Journal.outcomes late (.choice entry) = []) ∧
          ¬ host.console.stage.PastMenu ∨
        host.pendingEntry = none ∧ ∃ outcome,
          (∀ entry, Journal.outcomes late (.choice entry) =
            if entry = goal then [outcome] else []) ∧
          (outcome = .accepted 1 ↔ host.console.stage.PastMenu)) := by
  intro host active
  obtain ⟨opened, goal, late, ⟨⟨front, split⟩, alone, kept⟩, quiet, unprobed, probed, choice⟩ :=
    engaged_run settings port now history active
  exact ⟨opened, front, goal, late, split, alone, kept, quiet, unprobed, probed, choice⟩

/-- The probe is refused, and nothing runs any more. -/
theorem each_step_tried_once_refused :
    let history : List Operation := [.openPort, .fireLink, .poll,
      .port (.writeFaults [.fail .disconnected]), .fireConsole, .poll]
    let host := (ofSettings {} { port := { name := "line" } }).run history
    host.active = .console ∧ host.console.stage = .probing ∧
      host.console.timer.running ≠ true ∧ ∃ late outcome,
        Journal.Since host.world.journal .run late ∧ Journal.outcomes late .probe = [outcome] := by
  intro history
  dsimp only
  obtain ⟨active, stage, goal⟩ :
      let host := (ofSettings {} { port := { name := "line" } }).run history
      host.active = .console ∧ host.console.stage = .probing ∧ host.pendingEntry = some .run := by
    decide +kernel
  obtain ⟨-, front, entry, late, split, alone, kept, quiet, -, probed, choice⟩ :=
    each_step_tried_once {} { name := "line" } 0 history active
  refine ⟨active, stage, quiet.not.mpr (by simp [stage]), late, ?_⟩
  obtain ⟨outcome, once⟩ := probed (by simp [stage])
  obtain ⟨due, -⟩ | ⟨none, -⟩ := choice
  · obtain rfl : .run = entry := Option.some.inj (goal.symm.trans due)
    exact ⟨outcome, ⟨⟨front, split⟩, alone, kept⟩, once⟩
  · rw [goal] at none
    cases none

/-- A refused probe is not sent again, and a refused choice is no longer pending. -/
theorem refused_steps_given_up :
    ¬ (∀ history : List Operation,
        let host := (ofSettings {} { port := { name := "line" } }).run history
        host.active = .console → host.console.stage ≠ .flushing →
          .probe ∈ host.world.journal.filterMap Effect.delivered?) ∧
    ¬ ∀ (history : List Operation) (before : List Effect) (error : PortError),
        let host := (ofSettings {} { port := { name := "line" } }).run history
        host.world.journal = before ++ [.sent (.choice .run) (.refused error),
            .noted (.leavingFailed (.port error))] →
          host.active = .console → host.pendingEntry = some .run := by
  constructor
  · intro always
    let history : List Operation := [.openPort, .fireLink, .poll,
      .port (.writeFaults [.fail .disconnected]), .fireConsole, .poll]
    have delivered := always history (by decide +kernel) (by decide +kernel)
    exact absurd delivered (by decide +kernel)
  · intro always
    let menu := header ++ [newline] ++ prompt
    let history : List Operation := [.openPort, .fireLink, .poll, .fireConsole, .poll,
      .port (.writeFaults [.fail .disconnected]), .receive menu]
    let journal := ((ofSettings {} { port := { name := "line" } }).run history).world.journal
    have split : journal = journal.take 13 ++ [.sent (.choice .run) (.refused .disconnected),
        .noted (.leavingFailed (.port .disconnected))] := by
      decide +kernel
    have pending := always history _ _ split (by decide +kernel)
    exact absurd pending (by decide +kernel)

end Host
end NcpHost
