import NcpHost.Proofs.History
import NcpHost.Proofs.Host.Deed

/-! The launch of the bootloader: a request for it queues a command, and the answer to the
command hands the port to the console. The host remembers no more than that a launch was
asked for, not how often, and commands with the id of the launch come from the user too. So
the first answer that comes with that id hands the port over, and those after it do not,
until the launch is asked for again. -/
namespace NcpHost

/-- A launch is asked for until one is answered. -/
def Effect.launchAsked (asked : Bool) : Effect → Bool
  | .noted .launching => true
  | .answered command _ => asked && command.id != Ezsp.launchBootloader
  | _ => asked

namespace Journal

/-- A launch has been asked for, and none has been answered since. -/
def launchAsked (journal : List Effect) : Bool := journal.foldl Effect.launchAsked false

/-- The answer to a launch that was asked for. -/
def Launches (before : List Effect) (entry : Effect) : Prop :=
  ∃ command response, entry = .answered command response ∧
    command.id = Ezsp.launchBootloader ∧ launchAsked before = true

/-- If the port is handed over right after an answer, that is the answer to a launch that was
asked for. -/
def HandsOver (before : List Effect) (entry : Effect) : Prop :=
  ∀ goal, entry = .handedOver goal → ∀ front command response,
    before = front ++ [.answered command response, .waitEnded] →
      goal = .upload ∧ Launches front (.answered command response)

variable {journal added : List Effect}

theorem launchAsked_concat (journal : List Effect) (entry : Effect) :
    launchAsked (journal ++ [entry]) = entry.launchAsked (launchAsked journal) :=
  List.foldl_append

theorem launchAsked_append (minor : ∀ effect ∈ added, ∀ asked, effect.launchAsked asked = asked) :
    launchAsked (journal ++ added) = launchAsked journal := by
  induction added generalizing journal with
  | nil => rw [List.append_nil]
  | cons entry rest ih =>
    obtain ⟨first, others⟩ := List.forall_mem_cons.mp minor
    rw [List.append_cons, ih others, launchAsked_concat]
    exact first _

end Journal

/-- Entries that bear on no launch. -/
def Effect.IsLaunchless (effect : Effect) : Prop :=
  effect ≠ .noted .launching ∧ (∀ command response, effect ≠ .answered command response) ∧
    ∀ goal, effect ≠ .handedOver goal

theorem Effect.IsMinor.isLaunchless {effect : Effect} (minor : effect.IsMinor) :
    effect.IsLaunchless := by
  refine ⟨?_, ?_, ?_⟩
  · rintro rfl
    exact minor
  · rintro command response rfl
    exact minor
  · rintro goal rfl
    exact minor

theorem Effect.IsLaunchless.launchAsked {effect : Effect} (launchless : effect.IsLaunchless)
    (asked : Bool) : effect.launchAsked asked = asked := by
  obtain ⟨other, unanswered, -⟩ := launchless
  cases effect with
  | noted note => cases note <;> first | rfl | exact absurd rfl other
  | answered command response => exact absurd rfl (unanswered command response)
  | sent | received | reported | queued | handedOver | handedBack | waitEnded => rfl

namespace Host

variable {host host' : Host}

/-- The host remembers that a launch was asked for; every answer so far was followed by what
was due. An answer that came last leaves the host able to send. -/
structure Launching (host : Host) : Prop where
  pending : host.launchPending = Journal.launchAsked host.world.journal
  ready : ∀ front command response,
    host.world.journal = front ++ [.answered command response] → host.CanSend
  asked : Followed (fun _ entry => entry = .noted .launching) (fun _ => [.queued launchCommand])
    host.world.journal
  launched : Followed Journal.Launches (fun _ => [.waitEnded, .handedOver .upload])
    host.world.journal
  lawful : Lawful Journal.HandsOver host.world.journal

/-- Nothing has been asked for or handed over, and what could send can send. -/
structure Launchless (host host' : Host) : Prop where
  pending : host'.launchPending = host.launchPending
  canSend : host.CanSend → host'.world.journal = host.world.journal → host'.CanSend
  adds : World.Adds Effect.IsLaunchless host.world host'.world

theorem Launching.still (launching : Launching host) (launchless : Launchless host host') :
    Launching host' := by
  obtain ⟨pending, canSend, added, journal, each⟩ := launchless
  constructor
  · rw [pending, launching.pending, journal]
    exact (Journal.launchAsked_append fun effect member => (each effect member).launchAsked).symm
  · intro front command response split
    rcases List.eq_nil_or_concat added with rfl | ⟨shown, last, rfl⟩
    · rw [List.append_nil] at journal
      exact canSend (launching.ready front command response (journal ▸ split)) journal
    · rw [journal, List.concat_eq_append, ← List.append_assoc] at split
      obtain ⟨-, same⟩ := List.append_inj' split rfl
      have isLast : last ∈ shown.concat last := by simp
      exact absurd (List.singleton_inj.mp same) ((each last isLast).2.1 command response)
  · rw [journal]
    exact launching.asked.append_of_no_sign fun effect member before => (each effect member).1
  · rw [journal]
    apply launching.launched.append_of_no_sign
    rintro effect member before ⟨command, response, same, -⟩
    exact (each effect member).2.1 command response same
  · rw [journal]
    apply launching.lawful.append
    intro effect member before goal same
    exact absurd same ((each effect member).2.2 goal)

theorem Launchless.of_minor (pending : host'.launchPending = host.launchPending)
    (canSend : host.CanSend → host'.world.journal = host.world.journal → host'.CanSend)
    (minor : World.Minor host.world host'.world) : Launchless host host' :=
  ⟨pending, canSend, minor.mono fun _ => Effect.IsMinor.isLaunchless⟩

/-- Where an entry is added, nothing has to be said of what can send. -/
theorem Launchless.of_entry {middle : World} {effect : Effect} (own : effect.IsLaunchless)
    (pending : host'.launchPending = host.launchPending)
    (journal : middle.journal = host.world.journal ++ [effect])
    (rest : World.Adds Effect.IsLaunchless middle host'.world) : Launchless host host' := by
  obtain ⟨added, grown, each⟩ := rest
  rw [journal, List.append_assoc] at grown
  refine ⟨pending, fun _ same => ?_, _, grown, ?_⟩
  · rw [grown] at same
    simp at same
  · intro other member
    rcases List.mem_cons.mp member with rfl | later
    · exact own
    · exact each other later

theorem Launching.concat (launching : Launching host) {effect : Effect}
    (own : effect.IsLaunchless) : Launching (host.record effect) :=
  launching.still (.of_entry own rfl (World.journal_record _ _) (.refl _))

theorem Launching.asked_waited (launching : Launching host) :
    Journal.launchAsked (host.world.journal ++ [.waitEnded]) = host.launchPending :=
  (Journal.launchAsked_concat _ _).trans launching.pending.symm

/-- An answer that hands nothing over. -/
theorem Launching.answer (launching : Launching host) {response : Ezsp.Frame}
    {command : Ezsp.Command} (later : List Ezsp.Command) (can : host.CanSend)
    (matching : command.id = response.commandId)
    (kept : ¬ (response.commandId = Ezsp.launchBootloader ∧ host.launchPending = true)) :
    Launching (host.answeredBy response command later) := by
  let waited := host.world.journal ++ [.waitEnded]
  have journal : (host.answeredBy response command later).world.journal =
      waited ++ [.answered command response] := rfl
  have asked : Journal.launchAsked waited = host.launchPending := launching.asked_waited
  rw [← matching] at kept
  have undue : ¬ Journal.Launches waited (.answered command response) := by
    rintro ⟨command, response, same, launch, due⟩
    cases same
    exact kept ⟨launch, asked.symm.trans due⟩
  constructor
  · rw [journal, Journal.launchAsked_concat, asked]
    cases pending : host.launchPending with
    | false => exact pending
    | true =>
      have other : command.id ≠ Ezsp.launchBootloader := fun launch => kept ⟨launch, pending⟩
      simp [Effect.launchAsked, other, answeredBy, endWait, record, pending]
  · intro _ _ _ _
    exact ⟨can.opened, can.active, can.connected⟩
  · rw [journal]
    exact (launching.asked.append_of_no_sign (by simp)).append_of_no_sign (by simp)
  · rw [journal]
    have before : Followed Journal.Launches _ waited :=
      launching.launched.append_of_no_sign (by simp [Journal.Launches])
    exact before.append_cons (fun due => absurd due undue) (by simp)
  · rw [journal]
    exact (launching.lawful.append (by simp [Journal.HandsOver])).append
      (by simp [Journal.HandsOver])

/-- The port is handed over, but not right after an answer. -/
theorem Launching.enter (launching : Launching host) (goal : MenuEntry)
    (apart : ∀ front command response,
      host.world.journal ≠ front ++ [.answered command response]) :
    Launching (host.enterBootloader goal) := by
  have turned : Launching (host.turned goal) := by
    have journal : (host.turned goal).world.journal =
        host.world.journal ++ [.waitEnded] ++ [.handedOver goal] := rfl
    constructor
    · rw [journal, Journal.launchAsked_concat, Journal.launchAsked_concat]
      exact launching.pending
    · intro front command response split
      obtain ⟨-, same⟩ := List.append_inj' (journal.symm.trans split) rfl
      cases same
    · rw [journal]
      exact (launching.asked.append_of_no_sign (by simp)).append_of_no_sign (by simp)
    · rw [journal]
      exact (launching.launched.append_of_no_sign (by simp [Journal.Launches])).append_of_no_sign
        (by simp [Journal.Launches])
    · have waited : Lawful Journal.HandsOver (host.world.journal ++ [.waitEnded]) :=
        launching.lawful.append (by simp [Journal.HandsOver])
      rw [journal]
      refine Lawful.concat_iff.mpr ⟨waited, ?_⟩
      intro goal _ front command response split
      rw [List.append_cons front] at split
      exact absurd (List.append_inj' split rfl).1 (apart front command response)
  refine turned.still (.of_minor ?_ ?_ (minor_enterBootloader host goal))
  · rw [enterBootloader_shape]
  · intro can
    exact absurd can.active (by simp [Host.turned])

/-- The answer to a launch that was asked for. -/
theorem Launching.launch (launching : Launching host) {response : Ezsp.Frame}
    {command : Ezsp.Command} (later : List Ezsp.Command)
    (matching : command.id = response.commandId)
    (due : response.commandId = Ezsp.launchBootloader ∧ host.launchPending = true) :
    Launching ({ host.answeredBy response command later with
      launchPending := false }.enterBootloader .upload) := by
  let waited := host.world.journal ++ [.waitEnded]
  let entered := { host.answeredBy response command later with
    launchPending := false }.enterBootloader .upload
  have journal : entered.world.journal =
      waited ++ .answered command response :: [.waitEnded, .handedOver .upload] := by
    simp [entered, waited, enterBootloader_eq, turned, answeredBy, endWait, Link.endWait, record]
  have asked : Journal.launchAsked waited = true := launching.asked_waited.trans due.2
  have launches : Journal.Launches waited (.answered command response) :=
    ⟨command, response, rfl, matching.trans due.1, asked⟩
  change Launching entered
  constructor
  · rw [journal, List.append_cons, Journal.launchAsked_append (by simp [Effect.launchAsked]),
      Journal.launchAsked_concat, asked]
    simp [Effect.launchAsked, matching, due.1, entered, enterBootloader_eq, turned, answeredBy,
      endWait, record]
  · intro front other another split
    have last : waited ++ [.answered command response, .waitEnded] ++ [.handedOver .upload] =
        front ++ [.answered other another] := by
      rw [← split, journal]
      simp
    obtain ⟨-, same⟩ := List.append_inj' last rfl
    cases same
  · rw [journal]
    exact (launching.asked.append_of_no_sign (by simp)).append_of_no_sign (by simp)
  · have before : Followed Journal.Launches (fun _ => [.waitEnded, .handedOver .upload]) waited :=
      launching.launched.append_of_no_sign (by simp [Journal.Launches])
    rw [journal]
    exact before.append_cons (fun _ => List.prefix_rfl) (by simp [Journal.Launches])
  · have answered : Lawful Journal.HandsOver
        (waited ++ [.answered command response, .waitEnded]) :=
      (launching.lawful.append (by simp [Journal.HandsOver])).append
        (by simp [Journal.HandsOver])
    have split : entered.world.journal =
        (waited ++ [.answered command response, .waitEnded]) ++ [.handedOver .upload] := by
      rw [journal]
      simp
    rw [split]
    refine Lawful.concat_iff.mpr ⟨answered, ?_⟩
    intro goal same front other response shape
    obtain ⟨rfl, same'⟩ := List.append_inj' shape rfl
    cases same
    cases same'
    exact ⟨rfl, launches⟩

theorem Launching.ask (launching : Launching host) (can : host.CanSend) :
    Launching host.askedLaunch := by
  have journal : host.askedLaunch.world.journal =
      host.world.journal ++ .noted .launching :: [.queued launchCommand] :=
    List.append_assoc _ _ _
  constructor
  · rw [journal, List.append_cons, Journal.launchAsked_append (by simp [Effect.launchAsked]),
      Journal.launchAsked_concat]
    rfl
  · intro _ _ _ _
    exact ⟨can.opened, can.active, can.connected⟩
  · rw [journal]
    exact launching.asked.append_cons (fun _ => List.prefix_rfl) (by simp)
  · rw [journal]
    exact launching.launched.append_of_no_sign (by simp [Journal.Launches])
  · rw [journal]
    exact launching.lawful.append (by simp [Journal.HandsOver])

theorem launchless_read (host : Host) (bytes : List UInt8) : Launchless host (host.read bytes) := by
  have rest := (minor_read host bytes).mono fun _ => Effect.IsMinor.isLaunchless
  refine .of_entry ?_ ?_ (World.journal_record _ _) rest
  · simp [Effect.IsLaunchless]
  · rw [(reads_read host bytes).rest]

theorem launchless_sendReset (opened : host.opened = true) :
    Launchless host host.sendReset.2 := by
  have rest := (minor_sendReset opened).mono fun _ => Effect.IsMinor.isLaunchless
  refine .of_entry ?_ ?_ (World.journal_transmit _ _) rest
  · simp [Effect.IsLaunchless]
  · rw [sendReset, if_pos opened]

/-- Whatever the console does, a host whose port it has could not send and cannot. -/
theorem Launchless.of_console (active : host.active = .console)
    (pending : host'.launchPending = host.launchPending)
    (adds : World.Adds Effect.IsLaunchless host.world host'.world) : Launchless host host' := by
  refine ⟨pending, fun can => ?_, adds⟩
  rw [can.active] at active
  cases active

/-- The first reset has failed, which takes no answer. -/
theorem Launching.expire (launching : Launching host) :
    Launching host.unanswered.handleResetFailed := by
  have noted : Launchless host host.unanswered :=
    .of_entry (by simp [Effect.IsLaunchless]) rfl (World.journal_record _ _) (.refl _)
  have unanswered := launching.still noted
  rcases host.unanswered.handleResetFailed_cases with ⟨-, goal, same⟩ | ⟨-, same⟩
  · have probing : Launching (host.unanswered.note (.probingAfterReset goal.mode)) :=
      unanswered.concat (by simp [Effect.IsLaunchless])
    rw [same]
    apply probing.enter
    intro front command response split
    obtain ⟨-, same⟩ := List.append_inj' split rfl
    cases same
  · have silent : Launching (host.unanswered.note (.adapterSilent host.resetAttempts.toNat)) :=
      unanswered.concat (by simp [Effect.IsLaunchless])
    rw [same]
    exact silent.concat (by simp [Effect.IsLaunchless])

/-- Neither what is read nor what is put on the line asks for a launch or answers one. -/
theorem Deed.launching {wish : Option Mode} (deed : Deed wish host host')
    (launching : Launching host) : Launching host' := by
  cases deed with
  | routine routine =>
    refine launching.still (.of_minor routine.launchPending (fun can _ => routine.canSend can) ?_)
    exact routine.adds.mono fun _ => Effect.IsRoutine.isMinor
  | mode mode =>
    have still : Launchless host (host.setMode mode) := by
      refine .of_minor ?_ (fun can _ => ?_) (minor_setMode host mode)
      · rw [setMode_eq]
      · rw [setMode_eq]
        exact ⟨can.opened, can.active, can.connected⟩
    exact launching.still still
  | answer response command later can matching kept =>
    exact launching.answer later can matching kept
  | launch response command later matching due => exact launching.launch later matching due
  | ask can => exact launching.ask can
  | request goal asked cannot =>
    apply launching.enter
    intro front command response split
    exact cannot (launching.ready front command response split)
  | read bytes => exact launching.still (launchless_read host bytes)
  | expire => exact launching.expire
  | settle | fireConsole =>
    exact launching.still ⟨rfl, fun can _ => ⟨can.opened, can.active, can.connected⟩, .refl _⟩
  | choose entry pending active shown =>
    refine launching.still (.of_console active rfl ?_)
    exact host.console.adds_choose host.world entry (fun _ => by simp [Effect.IsLaunchless])
      fun note own => (show (Effect.noted note).IsMinor from own).isLaunchless
  | probe active =>
    refine launching.still (.of_console active rfl ?_)
    exact host.console.adds_poll host.world fun _ => by simp [Effect.IsLaunchless]
  | handBack | take =>
    exact launching.still
      (.of_entry (by simp [Effect.IsLaunchless]) rfl (World.journal_record _ _) (.refl _))
  | reset opened => exact launching.still (launchless_sendReset opened)
  | close =>
    have handed : World.Adds Effect.IsLaunchless host.endWait.world host.closePort.2.world :=
      (World.Adds.refl _).record (by simp [Effect.IsLaunchless])
    exact launching.still
      (.of_entry (by simp [Effect.IsLaunchless]) rfl (World.journal_record _ _) handed)

/-- Over any history, the port is handed over right after an answer exactly if the answer is
to a launch, and a launch has been asked for since the last answer to one; it is handed over
for the upload then. Whoever asks for the launch queues the command for it. So one answer
settles all that was asked for before, and a launch that is still in the queue then is
answered like any other command, unless the launch is asked for again. -/
theorem launches_hand_over (settings : Settings) (port : Port) (now : Nat)
    (history : List Operation) :
    let host := (ofSettings settings { port, now }).run history
    (∀ before after, host.world.journal = before ++ .noted .launching :: after →
      [.queued launchCommand] <+: after) ∧
    (∀ before command response after,
      host.world.journal = before ++ .answered command response :: after → ∀ goal,
        [.waitEnded, .handedOver goal] <+: after ↔
          goal = .upload ∧ command.id = Ezsp.launchBootloader ∧
            Journal.launchAsked before = true) ∧
    host.launchPending = Journal.launchAsked host.world.journal := by
  intro host
  have launching : Launching host := by
    refine run_of_deeds settings port now (fun _ _ _ deed => deed.launching) ?_ history
    refine ⟨rfl, ?_, .nil, .nil, .nil⟩
    intro front command response split
    simp [ofSettings] at split
  refine ⟨fun before after split => launching.asked before _ after split rfl, ?_,
    launching.pending⟩
  intro before command response after split goal
  constructor
  · rintro ⟨later, rfl⟩
    have handed : host.world.journal =
        (before ++ [.answered command response, .waitEnded]) ++ .handedOver goal :: later := by
      rw [split]
      simp
    obtain ⟨upload, other, another, same, launch, asked⟩ :=
      launching.lawful _ _ later handed goal rfl before command response rfl
    cases same
    exact ⟨upload, launch, asked⟩
  · rintro ⟨rfl, launch, asked⟩
    exact launching.launched before _ after split ⟨command, response, rfl, launch, asked⟩

/-- The launch is asked for twice before it is answered. The second command outlives the
hand-over; it goes out once the host has been reopened, and its answer hands nothing over.
No command is the user's own here. -/
theorem launch_outlives_hand_over :
    ¬ ∀ (history : List Operation) (before after : List Effect) (command : Ezsp.Command)
        (response : Ezsp.Frame),
      (∀ id parameters, .submit id parameters ∉ history) →
        ((ofSettings {} { port := { name := "line" } }).run history).world.journal =
            before ++ .answered command response :: after →
          ∃ goal, [.waitEnded, .handedOver goal] <+: after := by
  intro always
  let reply sequence := Wire.Frame.data 0 1 false
    [sequence, 0x80, 0xFF, 0x00, Ezsp.launchBootloader, 0x00]
  let history : List Operation := [.openPort, .receive (Wire.Frame.resetAck .powerOn).wire,
    .switchMode .upgrading, .switchMode .upgrading, .receive (reply 0).wire, .closePort, .openPort,
    .receive (Wire.Frame.resetAck .powerOn).wire, .receive (reply 1).wire]
  let journal := ((ofSettings {} { port := { name := "line" } }).run history).world.journal
  have split : journal = journal.take 40 ++
      [.answered { launchCommand with sequence := some 1 }
        ⟨1, 0x80, Ezsp.launchBootloader, [0x00]⟩] := by
    decide +kernel
  obtain ⟨goal, later, empty⟩ := always history _ [] _ _ (by simp [history]) split
  cases empty

end Host
end NcpHost
