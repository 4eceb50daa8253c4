import NcpHost.Proofs.Bootloader.Landmarks
import NcpHost.Proofs.Host.HandOver

/-! The dialogue with the bootloader, from one hand-over of the port to the next. The host
comes for one entry of the menu, and chooses it once, at a prompt of a menu that it has seen
since its probe. However the console's text is cut and however many prompts are in it, no
other entry is chosen, and none before its time. -/
namespace NcpHost

open Bootloader

/-- Text that arrived. -/
def Effect.text : Effect → List UInt8
  | .received bytes => bytes
  | _ => []

/-- Entries that neither begin nor end a dialogue, and with which the host says nothing in
it. -/
def Effect.IsPassive : Effect → Prop
  | .sent .probe _ | .sent (.choice _) _ | .handedOver _ | .handedBack |
    .noted (.leavingFailed (.noPrompt _)) | .noted (.uploadFailed (.noPrompt _)) => False
  | _ => True

theorem Effect.IsMinor.isPassive {effect : Effect} (minor : effect.IsMinor) :
    effect.IsPassive := by
  unfold IsPassive
  split
  all_goals first | exact minor | trivial

theorem Effect.IsMinor.text_eq {effect : Effect} (minor : effect.IsMinor) : effect.text = [] := by
  cases effect with
  | received => exact minor.elim
  | sent | reported | noted | queued | answered | handedOver | handedBack | waitEnded => rfl

namespace Journal

/-- The text that arrived. -/
def text (journal : List Effect) : List UInt8 := journal.flatMap Effect.text

/-- The port has been the console's since it was handed over for `goal`; `late` is what came
after that. -/
def Since (journal : List Effect) (goal : MenuEntry) (late : List Effect) : Prop :=
  (∃ front, journal = front ++ .handedOver goal :: late) ∧
    (∀ other, .handedOver other ∉ late) ∧ .handedBack ∉ late

/-- The console has probed, and this is what came after that. -/
def Probed (late heard : List Effect) : Prop :=
  (∃ flushed outcome, late = flushed ++ .sent .probe outcome :: heard) ∧
    ∀ outcome, .sent .probe outcome ∉ heard

/-- What is chosen is what the port was handed over for; nothing has been chosen since, and a
menu has been seen since the probe. A choice is never refused for want of a prompt. -/
structure Chosen (before : List Effect) (entry : Effect) : Prop where
  choice : ∀ goal outcome, entry = .sent (.choice goal) outcome → ∃ late heard,
    Since before goal late ∧ (∀ other outcome, .sent (.choice other) outcome ∉ late) ∧
      Probed late heard ∧ Console.ShowsMenu (text heard)
  prompted : ∀ stage, entry ≠ .noted (.leavingFailed (.noPrompt stage)) ∧
    entry ≠ .noted (.uploadFailed (.noPrompt stage))

variable {journal late heard added : List Effect} {goal : MenuEntry}

theorem Since.append (since : Since journal goal late) (alone : ∀ other, .handedOver other ∉ added)
    (kept : .handedBack ∉ added) : Since (journal ++ added) goal (late ++ added) := by
  obtain ⟨⟨front, rfl⟩, before, still⟩ := since
  refine ⟨⟨front, by simp⟩, ?_, ?_⟩
  · intro other member
    exact (List.mem_append.mp member).elim (before other) (alone other)
  · intro member
    exact (List.mem_append.mp member).elim still kept

theorem text_append (front back : List Effect) : text (front ++ back) = text front ++ text back :=
  List.flatMap_append

theorem text_eq_nil (each : ∀ entry ∈ added, entry.text = []) : text added = [] :=
  List.flatMap_eq_nil_iff.mpr each

theorem Probed.append (probed : Probed late heard)
    (none : ∀ outcome, .sent .probe outcome ∉ added) :
    Probed (late ++ added) (heard ++ added) := by
  obtain ⟨⟨flushed, outcome, rfl⟩, once⟩ := probed
  refine ⟨⟨flushed, outcome, by simp⟩, fun other member => ?_⟩
  exact (List.mem_append.mp member).elim (once other) (none other)

end Journal

namespace Host

variable {host host' : Host} {goal : MenuEntry} {late : List Effect}

/-- Where the dialogue for `goal` stands when `late` is in the journal since it began. -/
structure Dialogue (host : Host) (goal : MenuEntry) (late : List Effect) : Prop where
  since : Journal.Since host.world.journal goal late
  pending : ∀ entry, host.pendingEntry = some entry →
    entry = goal ∧ ∀ other outcome, .sent (.choice other) outcome ∉ late
  flushing : host.console.stage = .flushing → host.console.buffer = []
  menu : host.console.stage.IsMenu → ∃ heard, Journal.Probed late heard ∧
    host.console.Follows (Console.extend { stage := .probing } (Journal.text heard)).console

/-- The console has the port in a dialogue only, and what has been chosen so far was in order. -/
structure Conversing (host : Host) : Prop where
  dialogue : host.active = .console → ∃ goal late, Dialogue host goal late
  lawful : Lawful Journal.Chosen host.world.journal

/-- A dialogue goes on for as long as it is not ended. -/
theorem Dialogue.append {added : List Effect} (dialogue : Dialogue host goal late)
    (journal : host'.world.journal = host.world.journal ++ added)
    (each : ∀ entry ∈ added, entry.IsPassive)
    (pending : ∀ entry, host'.pendingEntry = some entry → host.pendingEntry = some entry)
    (flushing : host'.console.stage = .flushing → host'.console.buffer = [])
    (menu : host'.console.stage.IsMenu → host.console.stage.IsMenu ∧ ∀ text,
      host.console.Follows (Console.extend { stage := .probing } text).console →
        host'.console.Follows
          (Console.extend { stage := .probing } (text ++ Journal.text added)).console) :
    Dialogue host' goal (late ++ added) where
  since := by
    rw [journal]
    exact dialogue.since.append (fun _ => each _) (each _)
  pending entry due := by
    obtain ⟨same, unchosen⟩ := dialogue.pending entry (pending entry due)
    refine ⟨same, fun other outcome member => ?_⟩
    rcases List.mem_append.mp member with early | new
    · exact unchosen other outcome early
    · exact each _ new
  flushing := flushing
  menu reading := by
    obtain ⟨read, goesOn⟩ := menu reading
    obtain ⟨heard, probed, follows⟩ := dialogue.menu read
    refine ⟨heard ++ added, probed.append fun _ => each _, ?_⟩
    rw [Journal.text_append]
    exact goesOn _ follows

theorem lawful_passive {added : List Effect} {journal : List Effect}
    (lawful : Lawful Journal.Chosen journal) (each : ∀ entry ∈ added, entry.IsPassive) :
    Lawful Journal.Chosen (journal ++ added) := by
  apply lawful.append
  intro entry member before
  constructor
  · rintro goal outcome rfl
    exact (each _ member).elim
  · intro stage
    constructor
    · rintro rfl
      exact each _ member
    · rintro rfl
      exact each _ member

/-- The engine that has the port keeps it, the console stands where it stood, and nothing
that matters is told. -/
structure Speechless (host host' : Host) : Prop where
  active : host'.active = host.active
  pending : ∀ entry, host'.pendingEntry = some entry → host.pendingEntry = some entry
  stage : host'.console.stage = host.console.stage
  buffer : host'.console.buffer = host.console.buffer
  adds : World.Adds (fun effect => effect.IsPassive ∧ effect.text = []) host.world host'.world

theorem Speechless.of_minor (active : host'.active = host.active)
    (pending : host'.pendingEntry = host.pendingEntry) (console : host'.console = host.console)
    (minor : World.Minor host.world host'.world) : Speechless host host' where
  active := active
  pending _ same := pending.symm.trans same
  stage := congrArg _ console
  buffer := congrArg _ console
  adds := minor.mono fun _ own => ⟨own.isPassive, own.text_eq⟩

theorem Conversing.still (conversing : Conversing host) (speechless : Speechless host host') :
    Conversing host' := by
  obtain ⟨same, pending, stage, buffer, added, journal, each⟩ := speechless
  have passive : ∀ entry ∈ added, entry.IsPassive := fun entry member => (each entry member).1
  have silent : Journal.text added = [] :=
    Journal.text_eq_nil fun entry member => (each entry member).2
  constructor
  · intro active
    obtain ⟨goal, late, dialogue⟩ := conversing.dialogue (same ▸ active)
    refine ⟨goal, _, dialogue.append journal passive pending ?_ ?_⟩
    · rw [stage, buffer]
      exact dialogue.flushing
    · rw [stage, silent]
      intro menu
      refine ⟨menu, fun text follows => ?_⟩
      rw [List.append_nil]
      exact ⟨stage.trans follows.stage, buffer ▸ follows.serves⟩
  · rw [journal]
    exact lawful_passive conversing.lawful passive

theorem Conversing.concat (conversing : Conversing host) {effect : Effect}
    (passive : effect.IsPassive) (mute : effect.text = []) : Conversing (host.record effect) :=
  conversing.still ⟨rfl, fun _ => id, rfl, rfl, (World.Adds.refl _).record ⟨passive, mute⟩⟩

/-- While the link has the port, no dialogue goes on. -/
theorem conversing_of_link (link : host.active = .link)
    (lawful : Lawful Journal.Chosen host.world.journal) : Conversing host where
  dialogue active := by
    rw [link] at active
    cases active
  lawful := lawful

theorem lawful_concat {journal : List Effect} (lawful : Lawful Journal.Chosen journal)
    {effect : Effect} (silent : effect.transmission? = none) (unnoted : effect.note? = none) :
    Lawful Journal.Chosen (journal ++ [effect]) := by
  refine Lawful.concat_iff.mpr ⟨lawful, ?_, ?_⟩
  · rintro goal outcome rfl
    cases silent
  · intro stage
    constructor
    · rintro rfl
      cases unnoted
    · rintro rfl
      cases unnoted

theorem console_enterBootloader (host : Host) (goal : MenuEntry) :
    ∃ now, (host.enterBootloader goal).console = host.console.reset now := by
  rw [enterBootloader_eq]
  dsimp only
  split
  · rw [setMode_eq]
    exact ⟨_, rfl⟩
  · exact ⟨_, rfl⟩

/-- A dialogue begins when the port is handed over. -/
theorem conversing_enterBootloader (lawful : Lawful Journal.Chosen host.world.journal)
    (goal : MenuEntry) : Conversing (host.enterBootloader goal) := by
  let begun := { host.turned goal with console := (host.enterBootloader goal).console }
  obtain ⟨now, reset⟩ := console_enterBootloader host goal
  have journal : begun.world.journal =
      host.world.journal ++ [.waitEnded] ++ [.handedOver goal] := rfl
  have entered : Conversing begun := by
    constructor
    · intro _
      refine ⟨goal, [], ⟨⟨_, journal⟩, by simp, by simp⟩, ?_, ?_, ?_⟩
      · intro entry due
        exact ⟨(Option.some.inj due).symm, by simp⟩
      · intro _
        simp only [begun, reset]
        rfl
      · intro menu
        simp only [begun, reset] at menu
        exact menu.elim
    · rw [journal]
      exact lawful_concat (lawful_concat lawful rfl rfl) rfl rfl
  refine entered.still (.of_minor ?_ ?_ rfl (minor_enterBootloader host goal))
  all_goals rw [enterBootloader_shape]

/-- What the console reads goes on from what it has read since the probe. -/
theorem Conversing.read (conversing : Conversing host) (bytes : List UInt8) :
    Conversing (host.read bytes) := by
  obtain ⟨told, journal, each⟩ := minor_read host bytes
  have journal : (host.read bytes).world.journal =
      host.world.journal ++ .received bytes :: told := by
    rw [journal]
    simp [record]
  have passive : ∀ entry ∈ Effect.received bytes :: told, entry.IsPassive :=
    List.forall_mem_cons.mpr ⟨trivial, fun entry member => (each entry member).isPassive⟩
  have silent : Journal.text told = [] :=
    Journal.text_eq_nil fun entry member => (each entry member).text_eq
  have rest := (reads_read host bytes).rest
  constructor
  · intro active
    have active : host.active = .console := by
      rw [rest] at active
      exact active
    obtain ⟨goal, late, dialogue⟩ := conversing.dialogue active
    refine ⟨goal, _, dialogue.append journal passive ?_ ?_ ?_⟩
    · rw [rest]
      exact fun _ => id
    all_goals rw [reading_read active]
    · by_cases menu : host.console.stage.IsMenu
      · intro flushing
        have still := Console.menu_of_receive menu host.world.now bytes
        rw [flushing] at still
        exact still.elim
      · obtain ⟨-, before, same⟩ := Console.outside_of_not_menu menu host.world.now bytes
        intro flushing
        rw [same]
        exact dialogue.flushing (before flushing)
    · intro menu
      have before : host.console.stage.IsMenu := by
        by_contra other
        exact (Console.outside_of_not_menu other host.world.now bytes).1 menu
      refine ⟨before, fun text follows => ?_⟩
      have more : Journal.text (.received bytes :: told) = bytes :=
        (congrArg (bytes ++ ·) silent).trans (List.append_nil _)
      rw [more, Console.extend_append]
      exact (follows.receive before host.world.now bytes).follows
  · rw [journal]
    exact lawful_passive conversing.lawful passive

theorem probed_cases (host : Host) :
    host.console.stage = .flushing ∧ host.probed = { host with
      console := { host.console with timer := host.console.timer.collect.2, stage := .probing }
      world := (host.world.transmit .probe).2 } ∨
    host.probed = { host with console.timer := host.console.timer.collect.2 } := by
  unfold probed Console.poll
  dsimp only
  split
  · next due => exact .inl ⟨due.2, rfl⟩
  · exact .inr rfl

/-- The console probes once the line is quiet, and reads from then on. -/
theorem Conversing.probe (conversing : Conversing host) : Conversing host.probed := by
  rcases probed_cases host with ⟨flushing, same⟩ | same
  · let outcome := (host.world.port.write Transmission.probe.bytes).1
    have journal : host.probed.world.journal = host.world.journal ++ [.sent .probe outcome] := by
      rw [same]
      rfl
    constructor
    · intro active
      rw [same] at active
      obtain ⟨goal, late, dialogue⟩ := conversing.dialogue active
      refine ⟨goal, late ++ [.sent .probe outcome], ?_, ?_, ?_, ?_⟩
      · rw [journal]
        exact dialogue.since.append (by simp) (by simp)
      · rw [same]
        intro entry due
        obtain ⟨own, unchosen⟩ := dialogue.pending entry due
        exact ⟨own, by simpa using unchosen⟩
      · rw [same]
        intro other
        cases other
      · intro _
        have start : Console.extend { stage := .probing } (Journal.text []) =
            { console := { stage := .probing } } := Console.extend_nil rfl
        refine ⟨[], ⟨⟨late, outcome, rfl⟩, by simp⟩, ?_⟩
        rw [same, start]
        refine ⟨rfl, ?_⟩
        rw [dialogue.flushing flushing]
        exact Serves.refl _ _
    · rw [journal]
      exact Lawful.concat_iff.mpr ⟨conversing.lawful, by simp, by simp⟩
  · rw [same]
    exact conversing.still ⟨rfl, fun _ => id, rfl, rfl, .refl _⟩

theorem choose_console (console : Console) (world : World) (entry : MenuEntry) :
    (console.choose world entry).2.1 = console ∨
      (console.choose world entry).2.1.buffer = [] ∧
        ¬ (console.choose world entry).2.1.stage.IsMenu := by
  unfold Console.choose
  split
  · split
    · exact .inl rfl
    · cases entry
      all_goals exact .inr ⟨rfl, by simp [Console.detach, Stage.IsMenu]⟩
  · exact .inl rfl

/-- The one choice of the dialogue. -/
theorem Conversing.choose (conversing : Conversing host) {entry : MenuEntry}
    (pending : host.pendingEntry = some entry) (active : host.active = .console)
    (shown : host.console.stage = .promptSeen) : Conversing (host.chosen entry) := by
  obtain ⟨goal, late, dialogue⟩ := conversing.dialogue active
  obtain ⟨rfl, unchosen⟩ := dialogue.pending entry pending
  have menu : host.console.stage.IsMenu := by
    rw [shown]
    trivial
  obtain ⟨heard, probed, follows⟩ := dialogue.menu menu
  have shows : Console.ShowsMenu (Journal.text heard) :=
    Console.showsMenu_of_scan (follows.stage.symm.trans shown)
  obtain ⟨told, journal, each⟩ := minor_chosen shown entry
  have passive : ∀ entry ∈ told, entry.IsPassive :=
    fun entry member => (each entry member).isPassive
  let outcome := (host.world.port.write (Transmission.choice entry).bytes).1
  let said := .sent (.choice entry) outcome :: told
  have journal : (host.chosen entry).world.journal = host.world.journal ++ said := by
    rw [journal, World.journal_transmit, List.append_assoc]
    rfl
  -- Of what is said, only the choice is not passive.
  have other {effect : Effect} (loud : ¬ effect.IsPassive)
      (unlike : effect ≠ .sent (.choice entry) outcome) : effect ∉ said := by
    intro member
    rcases List.mem_cons.mp member with choice | later
    · exact unlike choice
    · exact loud (passive effect later)
  constructor
  · intro _
    have since : Journal.Since (host.chosen entry).world.journal entry (late ++ said) := by
      rw [journal]
      exact dialogue.since.append (fun _ => other id (by simp)) (other id (by simp))
    refine ⟨entry, late ++ said, since, ?_, ?_, ?_⟩
    · intro other due
      cases due
    all_goals
      have console : (host.chosen entry).console = (host.console.choose host.world entry).2.1 := rfl
      rcases choose_console host.console host.world entry with same | ⟨empty, outside⟩
    · intro flushing
      rw [console, same, shown] at flushing
      cases flushing
    · exact fun _ => empty
    · intro _
      have silent : Journal.text said = [] :=
        Journal.text_eq_nil
          (List.forall_mem_cons.mpr ⟨rfl, fun entry member => (each entry member).text_eq⟩)
      refine ⟨heard ++ said, probed.append fun _ => other id (by simp), ?_⟩
      rw [Journal.text_append, silent, List.append_nil]
      rw [console, same]
      exact follows
    · exact fun menu => absurd menu outside
  · rw [journal]
    unfold said
    rw [List.append_cons]
    refine lawful_passive (Lawful.concat_iff.mpr ⟨conversing.lawful, ?_, by simp⟩) passive
    intro other outcome same
    cases same
    exact ⟨late, heard, dialogue.since, unchosen, probed, shows⟩

theorem Conversing.expire (conversing : Conversing host) :
    Conversing host.unanswered.handleResetFailed := by
  have unanswered : Conversing host.unanswered :=
    conversing.still ⟨rfl, fun _ => id, rfl, rfl, (World.Adds.refl _).record ⟨trivial, rfl⟩⟩
  rcases host.unanswered.handleResetFailed_cases with ⟨-, goal, same⟩ | ⟨-, same⟩
  · rw [same]
    refine conversing_enterBootloader (lawful_passive unanswered.lawful ?_) goal
    simp [Effect.IsPassive]
  · have noted : Conversing (host.unanswered.note (.adapterSilent host.resetAttempts.toNat)) :=
      unanswered.concat trivial rfl
    rw [same]
    exact noted.concat trivial rfl

theorem Deed.conversing {wish : Option Mode} (deed : Deed wish host host')
    (conversing : Conversing host) : Conversing host' := by
  cases deed with
  | routine routine =>
    exact conversing.still (.of_minor routine.active routine.pendingEntry routine.console
      (routine.adds.mono fun _ => Effect.IsRoutine.isMinor))
  | mode mode =>
    refine conversing.still (.of_minor ?_ ?_ ?_ (minor_setMode host mode))
    all_goals rw [setMode_eq]
  | answer response command later can =>
    have link : (host.answeredBy response command later).active = .link := can.active
    exact conversing_of_link link
      (lawful_concat (lawful_concat conversing.lawful rfl rfl) rfl rfl)
  | launch response command later =>
    exact conversing_enterBootloader
      (lawful_concat (lawful_concat conversing.lawful rfl rfl) rfl rfl) .upload
  | ask can =>
    have link : host.askedLaunch.active = .link := can.active
    exact conversing_of_link link
      (lawful_passive (lawful_passive conversing.lawful (by simp [Effect.IsPassive]))
        (by simp [Effect.IsPassive]))
  | request goal asked => exact conversing_enterBootloader conversing.lawful goal
  | read bytes => exact conversing.read bytes
  | expire => exact conversing.expire
  | settle => exact conversing.still ⟨rfl, by simp, rfl, rfl, .refl _⟩
  | choose entry pending active shown => exact conversing.choose pending active shown
  | probe => exact conversing.probe
  | fireConsole => exact conversing.still ⟨rfl, fun _ => id, rfl, rfl, .refl _⟩
  | handBack | take => exact conversing_of_link rfl (lawful_concat conversing.lawful rfl rfl)
  | reset opened active =>
    obtain ⟨told, journal, each⟩ := minor_sendReset opened
    refine conversing_of_link ((active_sendReset host).trans active) ?_
    rw [journal, World.journal_transmit]
    exact lawful_passive (lawful_passive conversing.lawful (by simp [Effect.IsPassive]))
      fun entry member => (each entry member).isPassive
  | close =>
    exact conversing_of_link rfl (lawful_concat (lawful_concat conversing.lawful rfl rfl) rfl rfl)

/-- Over any history, whenever the host hands a choice to the port, the choice is what the
port was last handed over to the console for, and the only one since: `2` if that was the way
back to the application, `1` if it was the upload. What arrived since the console probed shows
the menu's header, the end of its line and a prompt, in this order. The port is handed over
for what the user asks for, at the answer to a launch for the upload, or at the first reset
that is not answered. The console never refuses a choice for want of a prompt. -/
theorem one_choice_per_entry (settings : Settings) (port : Port) (now : Nat)
    (history : List Operation) :
    let host := (ofSettings settings { port, now }).run history
    let journal := host.world.journal
    (∀ before entry outcome after, journal = before ++ .sent (.choice entry) outcome :: after →
      (Transmission.choice entry).bytes = [if entry.mode = .leaving then 0x32 else 0x31] ∧
      ∃ front late flushed probe heard,
        before = front ++ .handedOver entry :: late ∧
        (∀ other, .handedOver other ∉ late) ∧ .handedBack ∉ late ∧
        (∀ other outcome, .sent (.choice other) outcome ∉ late) ∧
        late = flushed ++ .sent .probe probe :: heard ∧
        (∀ outcome, .sent .probe outcome ∉ heard) ∧
        ∃ lead line menu, FirstMark header (Journal.text heard) lead (line ++ newline :: menu) ∧
          newline ∉ line ∧ prompt <:+: menu) ∧
    (∀ operation before goal after,
      (host.step operation).world.journal = journal ++ (before ++ .handedOver goal :: after) →
        operation = .switchMode goal.mode ∨
        (goal = .upload ∧ ∃ command response, response.commandId = Ezsp.launchBootloader ∧
          [.answered command response, .waitEnded] <:+ before) ∨
        [.noted (.probingAfterReset goal.mode), .waitEnded] <:+ before) ∧
    ∀ stage, .noted (.leavingFailed (.noPrompt stage)) ∉ journal ∧
      .noted (.uploadFailed (.noPrompt stage)) ∉ journal := by
  intro host journal
  have conversing : Conversing host := by
    refine run_of_deeds settings port now (fun _ _ _ deed => deed.conversing) ?_ history
    exact conversing_of_link rfl .nil
  refine ⟨?_, ?_, ?_⟩
  · intro before entry outcome after split
    obtain ⟨late, heard, ⟨⟨front, came⟩, alone, kept⟩, unchosen, ⟨⟨flushed, probe, shape⟩, once⟩,
      shows⟩ := (conversing.lawful before _ after split).choice entry outcome rfl
    have byte : (Transmission.choice entry).bytes =
        [if entry.mode = .leaving then 0x32 else 0x31] := by
      cases entry <;> rfl
    exact ⟨byte, front, late, flushed, probe, heard, came, alone, kept, unchosen, shape, once,
      shows⟩
  · intro operation before goal after split
    obtain ⟨added, more, calls⟩ := calls_step settings port now history operation
    have called := calls before _ after (List.append_cancel_left (more.symm.trans split)) goal rfl
    exact called.imp_left switchMode_of_wish
  · intro stage
    constructor
    · intro member
      obtain ⟨before, after, split⟩ := List.append_of_mem member
      exact ((conversing.lawful before _ after split).prompted stage).1 rfl
    · intro member
      obtain ⟨before, after, split⟩ := List.append_of_mem member
      exact ((conversing.lawful before _ after split).prompted stage).2 rfl

end Host
end NcpHost
