import Mathlib.Data.List.Induction
import Mathlib.Logic.Relation
import NcpHost.Proofs.Bootloader.Text
import NcpHost.Proofs.Host.Modes
import NcpHost.Proofs.Host.Reading
import NcpHost.Proofs.Host.Routine

/-! What a host does that bears on the port, the resets and the mode, one deed after the
other, with everyday traffic as a single one. A deed keeps together what belongs together,
such as a request for the launch and the command that goes with it, and says under which
conditions it is done: those that hold after every history, not only those that the code
looks at. -/
namespace NcpHost

open Relation

/-- All entries but those that tell who has the port, of resets, of choices, of answers, and
of turns to the bootloader. -/
def Effect.IsMinor : Effect → Prop
  | .sent (.frame .reset) _ | .sent .probe _ | .sent (.choice _) _ | .received _ | .answered .. |
    .handedOver _ | .handedBack => False
  | .sent (.frame _) _ | .queued _ | .waitEnded => True
  | .reported event => event.kind ≠ .adapterSilent
  | .noted note => note.IsRoutine

theorem Effect.IsRoutine.isMinor {effect : Effect} (isRoutine : effect.IsRoutine) :
    effect.IsMinor := by
  cases effect with
  | reported => exact isRoutine.2
  | noted | queued => exact isRoutine
  | received | answered | handedOver | handedBack | waitEnded => exact isRoutine.elim
  | sent what =>
    cases what with
    | probe | choice => exact isRoutine.elim
    | frame content =>
      cases content with
      | data | ack => trivial
      | reset | nak | resetAck => exact isRoutine.elim

abbrev World.Minor : World → World → Prop := World.Adds Effect.IsMinor

namespace Host

/-- The command that launches the bootloader. -/
def launchCommand : Ezsp.Command := { id := Ezsp.launchBootloader, parameters := [Ezsp.normalMode] }

/-- The launch is asked for, and its command has joined the queue. -/
def askedLaunch (host : Host) : Host := host.askingLaunch.queued launchCommand

/-- The wait for the answer to a reset is over. -/
def unanswered (host : Host) : Host :=
  { host with
    link.timer := host.link.timer.stop
    world := host.world.note (.resetUnanswered host.link.timeouts.resetAck) }

/-- The host has tried to choose what it came for. -/
def chosen (host : Host) (entry : MenuEntry) : Host :=
  { host with pendingEntry := none }.tried entry

/-- The mode that an operation asks for. -/
def Operation.wish : Operation → Option Mode
  | .switchMode requested => some requested
  | _ => none

/-- What a host does, and at whose wish if it is the user's. -/
inductive Deed (wish : Option Mode) (host : Host) : Host → Prop
  | routine {host' : Host} (routine : Routine host host') : Deed wish host host'
  | mode (mode : Mode) : Deed wish host (host.setMode mode)
  | answer (response : Ezsp.Frame) (command : Ezsp.Command) (later : List Ezsp.Command)
      (can : host.CanSend) (matching : command.id = response.commandId)
      (kept : ¬ (response.commandId = Ezsp.launchBootloader ∧ host.launchPending = true)) :
      Deed wish host (host.answeredBy response command later)
  /-- The answer to a launch that was asked for hands the port over. -/
  | launch (response : Ezsp.Frame) (command : Ezsp.Command) (later : List Ezsp.Command)
      (matching : command.id = response.commandId)
      (due : response.commandId = Ezsp.launchBootloader ∧ host.launchPending = true) :
      Deed wish host
        ({ host.answeredBy response command later with
            launchPending := false }.enterBootloader .upload)
  | ask (can : host.CanSend) : Deed wish host host.askedLaunch
  | request (goal : MenuEntry) (asked : wish = some goal.mode) (cannot : ¬ host.CanSend) :
      Deed wish host (host.enterBootloader goal)
  | read (bytes : List UInt8) : Deed wish host (host.read bytes)
  | expire (running : host.link.timer.running = true) (down : host.link.connected = false) :
      Deed wish host host.unanswered.handleResetFailed
  | settle : Deed wish host { host with pendingEntry := none }
  /-- The entry for which the host turned to the bootloader, at a prompt. -/
  | choose (entry : MenuEntry) (pending : host.pendingEntry = some entry)
      (active : host.active = .console) (shown : host.console.stage = .promptSeen) :
      Deed wish host (host.chosen entry)
  | probe (active : host.active = .console) : Deed wish host host.probed
  | fireConsole : Deed wish host { host with console.timer := host.console.timer.fire }
  | handBack : Deed wish host host.handedBack
  | reset (opened : host.opened = true) (active : host.active = .link) :
      Deed wish host host.sendReset.2
  | take : Deed wish host { host.record .handedBack with
      opened := true
      active := .link }
  | close : Deed wish host host.closePort.2

abbrev Deeds (wish : Option Mode) : Host → Host → Prop := ReflTransGen (Deed wish)

variable {wish : Option Mode} {host host' last : Host} {timeouts : Timeouts}

/-! What is in the journal of a deed beside that which makes it one. -/

theorem minor_setMode (host : Host) (mode : Mode) :
    World.Minor host.world (host.setMode mode).world :=
  adds_setMode host mode fun _ _ => by simp [Effect.IsMinor, Event.kind]

theorem minor_enterBootloader (host : Host) (goal : MenuEntry) :
    World.Minor (host.turned goal).world (host.enterBootloader goal).world := by
  rw [enterBootloader_eq]
  dsimp only
  split
  · exact minor_setMode (host.turned goal) goal.mode
  · exact .refl _

theorem minor_read (host : Host) (bytes : List UInt8) :
    World.Minor (host.record (.received bytes)).world (host.read bytes).world :=
  adds_read host bytes (fun _ own => own) trivial

theorem minor_sendReset (opened : host.opened = true) :
    World.Minor (host.world.transmit (.frame .reset)).2 host.sendReset.2.world := by
  rw [sendReset, if_pos opened, Link.reset_eq]
  dsimp only
  split
  · exact (World.Adds.refl _).record (by trivial)
  · exact .refl _

theorem minor_chosen (shown : host.console.stage = .promptSeen) (entry : MenuEntry) :
    World.Minor (host.world.transmit (.choice entry)).2 (host.chosen entry).world := by
  show World.Minor _ (host.console.choose host.world entry).2.2
  rw [Bootloader.Console.choose, if_pos shown]
  split
  · next outcome =>
    rw [outcome]
    exact .refl _
  · next outcome =>
    rw [outcome]
    cases entry
    all_goals exact (World.Adds.refl _).record (by trivial)

theorem Routine.deeds (routine : Routine host host') : Deeds wish host host' :=
  .single (.routine routine)

namespace Deeds

theorem routine (deeds : Deeds wish host host') (routine : Routine host' last) :
    Deeds wish host last :=
  deeds.tail (.routine routine)

theorem note (deeds : Deeds wish host host') {note : Note} (own : note.IsRoutine) :
    Deeds wish host (host'.note note) :=
  deeds.routine ((Routine.refl host').note own)

theorem report (deeds : Deeds wish host host') {event : Event}
    (own : (Effect.reported event).IsRoutine) : Deeds wish host (host'.report event) :=
  deeds.routine ((Routine.refl host').record own)

theorem attempt {undertaking : Undertaking} {result : Except HostError Unit × Host}
    (deeds : Deeds wish host result.2) : Deeds wish host (attempt undertaking result) := by
  rcases attempt_cases undertaking result with same | ⟨error, same⟩
  · rw [same]
    exact deeds
  · rw [same]
    exact deeds.note trivial

/-- What every deed preserves, deeds preserve. -/
theorem preserves {P : Host → Prop} (deeds : Deeds wish host host')
    (each : ∀ host host', Deed wish host host' → P host → P host') (holds : P host) : P host' := by
  induction deeds with
  | refl => exact holds
  | tail _ deed ih => exact each _ _ deed ih

end Deeds

theorem deeds_complete (can : host.CanSend) {response : Ezsp.Frame} {command : Ezsp.Command}
    (later : List Ezsp.Command) (matching : command.id = response.commandId) :
    Deeds wish host (host.complete response command later) := by
  rw [complete_eq]
  split
  · next due => exact .single (.launch response command later matching due)
  · next kept =>
    have answered : Deeds wish host _ := .single (.answer response command later can matching kept)
    exact answered.routine (Routine.sendNext _).attempt

theorem deeds_handlePayload (sound : host.standing.Sound timeouts) (payload : List UInt8) :
    Deeds wish host (host.handlePayload payload) := by
  rcases payload_routine_or_completes host payload with
    routine | ⟨inFlight, heard, response, command, later, routine, matching, same⟩
  · exact routine.deeds
  · obtain ⟨opened, active, connected, -⟩ := sound.carries inFlight
    rw [same]
    exact routine.deeds.trans (deeds_complete (routine.canSend ⟨opened, active, connected⟩)
      later matching)

theorem deeds_handleConnected (host : Host) (code : Wire.ResetCode) :
    Deeds wish host (host.handleConnected code) := by
  have noted : Deeds wish host (host.note (.linkUp code)) := Deeds.note .refl (by trivial)
  have ready : Deeds wish host (host.ready code) :=
    Deeds.report (noted.tail (.mode .application)) (by simp [Effect.IsRoutine, Event.kind])
  rcases host.handleConnected_cases code with same | same
  · rw [same]
    exact ready.routine (Routine.resend _ _)
  · rw [same]
    exact (ready.note (by trivial)).routine (Routine.resend _ _)

/-- What is told of frames is handled by deeds. -/
theorem deeds_told {up : Bool} {frames : List Wire.Frame} {event : LinkEvent}
    (sound : host.standing.Sound timeouts) (told : event ∈ Wire.Frame.told up frames) :
    Deeds wish host (host.handleLinkEvent event) := by
  rcases Wire.Frame.mem_of_told told with ⟨payload, rfl⟩ | ⟨number, rfl, -⟩ | ⟨code, rfl, -⟩
  · exact deeds_handlePayload sound payload
  · exact (Deeds.note .refl (by trivial)).routine (Routine.resend _ _)
  · exact deeds_handleConnected host code

theorem deeds_foldl_told {up : Bool} {frames : List Wire.Frame} (events : List LinkEvent)
    (sound : host.standing.Sound timeouts)
    (told : ∀ event ∈ events, event ∈ Wire.Frame.told up frames) :
    Deeds wish host (events.foldl handleLinkEvent host) := by
  induction events generalizing host with
  | nil => exact .refl
  | cons event later ih =>
    obtain ⟨first, rest⟩ := List.forall_mem_cons.mp told
    exact (deeds_told sound first).trans (ih (sound_handleLinkEvent sound event) rest)

theorem deeds_pollLink (host : Host) : Deeds wish host host.pollLink := by
  rcases host.link.poll_cases host.world with
    still | ⟨running, down, failed⟩ | ⟨running, up, silent⟩
  · have same : host.pollLink = host := by
      rw [pollLink, still]
      rfl
    rw [same]
  · have same : host.pollLink = host.unanswered.handleResetFailed := by
      rw [pollLink, failed]
      rfl
    rw [same]
    exact .single (.expire running down)
  · let polled : Host := { host with
      link.timer := host.link.timer.stop
      link.policy := host.link.policy.timeout.2
      world := host.world.note
        (.dataUnacknowledged host.link.timeouts.dataAck host.link.policy.timeout.1) }
    have same : host.pollLink =
        polled.handleLinkEvent (.ackTimeout host.link.policy.timeout.1) := by
      rw [pollLink, silent]
      rfl
    have collected : Routine host polled :=
      ⟨rfl, rfl, rfl, rfl, rfl, rfl, rfl, rfl, by intro runs; contradiction,
        (World.Adds.refl _).record (by trivial)⟩
    rw [same]
    exact (collected.trans (routine_ackTimeout polled _)).deeds

theorem error_of_choose {console : Bootloader.Console} {world : World} {entry : MenuEntry}
    (shown : console.stage = .promptSeen) {error : Bootloader.ConsoleError}
    (failed : (console.choose world entry).1 = .error error) : ∃ cause, error = .port cause := by
  unfold Bootloader.Console.choose at failed
  rw [if_pos shown] at failed
  split at failed
  · exact ⟨_, (Except.error.inj failed).symm⟩
  · cases entry <;> cases failed

/-- At a prompt the choice does not fail for want of one. -/
theorem deeds_leaveBootloader (pending : host.pendingEntry = some .run)
    (active : host.active = .console) (shown : host.console.stage = .promptSeen) :
    Deeds wish host { host with pendingEntry := none }.leaveBootloader := by
  have chosen : Deeds wish host (host.chosen .run) := .single (.choose .run pending active shown)
  rcases leaveBootloader_cases { host with pendingEntry := none } with
    ⟨-, same⟩ | ⟨opened, ⟨error, failed, same⟩ | ⟨-, same⟩⟩
  · rw [same]
    exact .single .settle
  · obtain ⟨cause, rfl⟩ := error_of_choose shown failed
    rw [same]
    exact chosen.note trivial
  · have handed : Deeds wish host (host.chosen .run).handedBack := chosen.tail .handBack
    have application := handed.tail (.mode .application)
    rw [same]
    refine Deeds.attempt (application.tail (.reset ?_ (active_setMode _ _)))
    exact (opened_setMode _ _).trans opened

theorem deeds_startUpload (pending : host.pendingEntry = some .upload)
    (active : host.active = .console) (shown : host.console.stage = .promptSeen) :
    Deeds wish host { host with pendingEntry := none }.startUpload := by
  have chosen : Deeds wish host (host.chosen .upload) :=
    .single (.choose .upload pending active shown)
  rcases startUpload_cases { host with pendingEntry := none } with
    ⟨-, same⟩ | ⟨-, ⟨error, failed, same⟩ | ⟨-, same⟩⟩
  · rw [same]
    exact .single .settle
  · obtain ⟨cause, rfl⟩ := error_of_choose shown failed
    rw [same]
    exact chosen.note trivial
  · rw [same]
    exact chosen.tail (.mode .upgrading)

/-- The console is at a prompt if one is to be reported while an entry is pending. -/
def AtPrompt (host : Host) (events : List Bootloader.ConsoleEvent) : Prop :=
  host.pendingEntry ≠ none → .promptDetected ∈ events →
    host.active = .console ∧ host.console.stage = .promptSeen

theorem deeds_foldl_handleConsoleEvent (events : List Bootloader.ConsoleEvent)
    (atPrompt : host.AtPrompt events) : Deeds wish host (events.foldl handleConsoleEvent host) := by
  induction events generalizing host with
  | nil => exact .refl
  | cons event later ih =>
    cases event with
    | transferReady =>
      have reported : Deeds wish host (host.report .transferReady) :=
        Deeds.report .refl (by simp [Effect.IsRoutine, Event.kind])
      refine reported.trans (ih fun pending member => ?_)
      exact atPrompt pending (List.mem_cons_of_mem _ member)
    | promptDetected =>
      have free : AtPrompt (host.handleConsoleEvent .promptDetected) later :=
        fun pending => absurd (pendingEntry_prompt host) pending
      have reported : Deeds wish host (host.report (.promptSeen host.console.version)) :=
        Deeds.report .refl (by simp [Effect.IsRoutine, Event.kind])
      refine (reported.trans ?_).trans (ih free)
      have ready (entry : MenuEntry) (pending : host.pendingEntry = some entry) :
          host.active = .console ∧ host.console.stage = .promptSeen :=
        atPrompt (by simp [pending]) List.mem_cons_self
      rcases host.prompt_cases with ⟨pending, same⟩ | ⟨pending, same⟩ | ⟨-, same⟩
      · obtain ⟨active, shown⟩ := ready .run pending
        rw [same]
        exact deeds_leaveBootloader pending active shown
      · obtain ⟨active, shown⟩ := ready .upload pending
        rw [same]
        exact deeds_startUpload pending active shown
      · rw [same]
        exact .single .settle

theorem atPrompt_read (active : host.active = .console) (bytes : List UInt8) :
    (host.read bytes).AtPrompt (host.console.receive host.world.now bytes).events := by
  intro _ member
  have stays : (host.read bytes).active = .console := by
    rw [(reads_read host bytes).rest]
    exact active
  refine ⟨stays, ?_⟩
  rw [reading_read active]
  exact Bootloader.Console.stage_of_prompt member

theorem sound_read (sound : host.standing.Sound timeouts) (active : host.active = .link)
    (bytes : List UInt8) : (host.read bytes).standing.Sound timeouts := by
  have heard := sound.record (show (Effect.received bytes).IsQuiet from trivial)
  have move : Move none (host.record (.received bytes)) (host.read bytes) := by
    rw [read_link active]
    exact .read bytes active
  exact move.sound heard

theorem deeds_receive (sound : host.standing.Sound timeouts) (bytes : List UInt8) :
    Deeds wish host (host.receive bytes) := by
  have read : Deeds wish host (host.read bytes) := .single (.read bytes)
  cases active : host.active with
  | link =>
    rw [receive_link active]
    exact read.trans (deeds_foldl_told _ (sound_read sound active bytes) fun _ member => member)
  | console =>
    rw [receive_console active]
    exact read.trans (deeds_foldl_handleConsoleEvent _ (atPrompt_read active bytes))

theorem deeds_pollConsole (host : Host) : Deeds wish host host.pollConsole := by
  rcases host.pollConsole_cases with same | ⟨active, -, same | ⟨error, same⟩⟩
  · rw [same]
  · rw [same]
    exact .single (.probe active)
  · have probed : Deeds wish host host.probed := .single (.probe active)
    rw [same]
    exact probed.note (by trivial)

theorem deeds_openPort (host : Host) : Deeds wish host host.openPort.2 := by
  have noted : Deeds wish host (host.note (.opening host.world.port.name)) :=
    Deeds.note .refl (by trivial)
  exact (noted.tail .take).tail (.reset rfl rfl)

theorem mode_of_entryFor {requested : Mode} {entry : MenuEntry}
    (legal : host.entryFor requested = some entry) : entry.mode = requested := by
  cases requested with
  | unknown | application => cases legal
  | upgrading | leaving =>
    rw [entryFor] at legal
    split at legal
    · cases legal
      rfl
    · cases legal

/-- Whoever asks for the bootloader directly cannot send: an up link would carry the launch,
and leads out of the bootloader. -/
theorem deeds_switchMode (settled : Settled host) (requested : Mode) :
    Deeds (some requested) host (host.switchMode requested).2 := by
  rcases host.switchMode_cases requested with
    same | ⟨entry, legal, same | ⟨opened, ⟨carried, same⟩ | ⟨other, same⟩⟩⟩
  · rw [same]
    exact Deeds.note .refl (by trivial)
  · rw [same]
  · have asked : Deeds (some requested) host host.askedLaunch :=
      .single (.ask ⟨opened, carried.2.1, carried.2.2⟩)
    have sent := asked.routine (Routine.sendNext _)
    rw [same]
    rcases host.askingLaunch.submit_cases Ezsp.launchBootloader [Ezsp.normalMode] with
      ⟨shut, -⟩ | ⟨-, same⟩
    · exact absurd (shut.symm.trans opened) Bool.false_ne_true
    · rw [same]
      exact sent
  · have asked : some requested = some entry.mode := congrArg some (mode_of_entryFor legal).symm
    rw [same]
    refine .single (.request entry asked fun can => ?_)
    have application := settled.up can
    cases requested with
    | unknown | application => cases legal
    | upgrading =>
      have upload : entry = .upload := by
        simpa [entryFor, application] using legal.symm
      exact other ⟨upload, can.active, can.connected⟩
    | leaving =>
      simp [entryFor, application, Mode.isBootloader, can.active] at legal

theorem deeds_step (sound : host.standing.Sound timeouts) (settled : Settled host)
    (operation : Operation) : Deeds operation.wish host (host.step operation) := by
  cases operation with
  | openPort => exact deeds_openPort host
  | closePort => exact .single .close
  | submit id parameters => exact (Routine.submit host id parameters).deeds
  | receive bytes => exact deeds_receive sound bytes
  | switchMode requested => exact deeds_switchMode settled requested
  | fireConsole => exact .single .fireConsole
  | poll => exact (deeds_pollLink host).trans (deeds_pollConsole _)
  | forceUpgrade | fireLink | port =>
    exact Routine.deeds ⟨rfl, rfl, rfl, rfl, rfl, rfl, rfl, rfl, .inl, .refl _⟩

/-- What every deed preserves holds after every history. -/
theorem run_of_deeds {P : Host → Prop} (settings : Settings) (port : Port) (now : Nat)
    (each : ∀ wish host host', Deed wish host host' → P host → P host')
    (start : P (ofSettings settings { port, now })) (history : List Operation) :
    P ((ofSettings settings { port, now }).run history) := by
  induction history using List.reverseRecOn with
  | nil => exact start
  | append_singleton front last ih =>
    have sound := sound_run settings port now front
    rw [run_append]
    exact (deeds_step sound (settled_run settings port now front) last).preserves (each _) ih

end Host
end NcpHost
