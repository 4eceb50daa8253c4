import NcpHost.Proofs.Host.Order

/-! Which payload settles a command. The host compares ids and nothing else, and it decodes
all that came in one piece before it handles any of it. So a command is answered by a frame
with its id that is handled while the command is in flight; that the frame was meant for the
command, or even came after the command had gone out, does not follow. -/
namespace NcpHost

/-- The entry settles no command. -/
def Effect.Unanswering (effect : Effect) : Prop := effect.answered? = none

theorem Effect.IsQuiet.unanswering {effect : Effect} (quiet : effect.IsQuiet) :
    effect.Unanswering :=
  quiet.isApart.answered

namespace Journal

/-- A command is answered right after the response to it was reported, while the command
was in flight under its own number. -/
def AnswersInFlight (before : List Effect) (entry : Effect) : Prop :=
  ∀ command response, entry = .answered command response →
    response.commandId = command.id ∧
    command.sequence = some (UInt8.ofNat (settled before)) ∧
    ∃ front, before = front ++ [.reported (.frameReceived response.commandId response.sequence
        response.parameters), .waitEnded] ∧
      InFlight front ∧ (submitted front)[settled front]? = some command.unsent

theorem answersInFlight_of_unanswering {entry : Effect} (unanswering : entry.Unanswering)
    (before : List Effect) : AnswersInFlight before entry := by
  rintro command response rfl
  cases unanswering

/-- A frame in flight carries the oldest command. -/
theorem InFlight.carries {journal : List Effect} {command : Ezsp.Command}
    (inFlight : InFlight journal) (lawful : Lawful InOrder journal)
    (oldest : (submitted journal)[settled journal]? = some command.unsent) :
    ∃ early sent middle, journal = early ++ sent :: middle ∧
      settled early = settled journal ∧
      sent.carried? = some (Ezsp.Frame.encode (UInt8.ofNat (settled journal)) command.id
        command.parameters) := by
  obtain ⟨early, sent, payload, middle, rfl, carried, same⟩ := inFlight
  obtain ⟨first, found, rfl⟩ :=
    (lawful early sent middle rfl).1 payload (Effect.offered?_of_carried? carried)
  have stored : (submitted (early ++ sent :: middle))[settled early]? = some first :=
    submitted_stable found
  rw [same, oldest] at stored
  obtain rfl := Option.some.inj stored
  rw [same] at carried
  exact ⟨early, sent, middle, rfl, same, carried⟩

end Journal

namespace Host

open Journal

variable {hearer : Option Engine} {host host' : Host}

/-- One move alone settles a command, on behalf of the link: the answer to the command that
is in flight. -/
theorem Move.adds (move : Move hearer host host') :
    World.Adds Effect.Unanswering host.world host'.world ∨
      hearer = some .link ∧ ∃ response command later,
        host.waiting = true ∧ host.queue = command :: later ∧
        command.id = response.commandId ∧
        host'.world.journal = host.world.journal ++ [.reported (.frameReceived
          response.commandId response.sequence response.parameters), .waitEnded] ++
            [.answered command response] := by
  cases move with
  | answer response command later inFlight oldest matching heard =>
    refine .inr ⟨heard, response, command, later, inFlight, oldest, matching, ?_⟩
    simp [record, report, World.report, endWait, Link.endWait]
  | force | port | fireLink | fireConsole | launch | launched | settle | rewind | hold =>
    exact .inl (.refl _)
  | remark effect isRemark =>
    exact .inl ((World.Adds.refl _).record isRemark.isQuiet.unanswering)
  | mode mode => exact .inl (adds_setMode host mode fun _ _ => rfl)
  | enqueue command opened unsent => exact .inl ((World.Adds.refl _).record rfl)
  | send command later can oldest =>
    rw [sendNext_of_can host can oldest]
    exact .inl (host.link.adds_send host.world _ (fun _ => rfl) fun _ _ => rfl)
  | read bytes active =>
    exact .inl (host.link.adds_receive host.world bytes (fun _ _ => rfl) rfl)
  | acknowledge opened heard =>
    exact .inl (host.link.adds_acknowledge host.world fun _ _ => rfl)
  | pollLink => exact .inl (host.link.adds_poll host.world fun _ _ => rfl)
  | reset opened active =>
    rw [sendReset, if_pos opened]
    exact .inl (host.link.adds_reset host.world (fun _ => rfl) fun _ _ => rfl)
  | enter goal =>
    exact .inl ((quiet_enterBootloader host goal).mono fun _ => Effect.IsQuiet.unanswering)
  | readConsole bytes active =>
    exact .inl ((World.Adds.refl _).notes _ fun _ _ => rfl)
  | pollConsole opened active =>
    exact .inl (host.console.adds_poll host.world fun _ => rfl)
  | choose entry opened active =>
    exact .inl (host.console.adds_choose host.world entry (fun _ => rfl) fun _ _ => rfl)
  | handBack | take => exact .inl ((World.Adds.refl _).record rfl)
  | close =>
    have ended : World.Adds Effect.Unanswering host.world host.endWait.world :=
      (World.Adds.refl _).record rfl
    exact .inl (ended.record rfl)

/-- What is not done on behalf of the link settles nothing. -/
theorem Moves.unanswering (moves : Moves hearer host host') (deaf : hearer ≠ some .link) :
    World.Adds Effect.Unanswering host.world host'.world := by
  induction moves with
  | refl => exact .refl _
  | then_move _ move ih => exact ih.trans (move.adds.resolve_right fun heard => deaf heard.1)

/-- Every move keeps to it that commands are answered while they are in flight. -/
theorem Move.answersInFlight {timeouts : Timeouts} (move : Move hearer host host')
    (sound : host.standing.Sound timeouts) (orderly : Orderly host)
    (lawful : Lawful AnswersInFlight host.world.journal) :
    Lawful AnswersInFlight host'.world.journal := by
  rcases move.adds with ⟨added, journal, each⟩ |
    ⟨-, response, command, later, waiting, oldest, matching, journal⟩
  · rw [journal]
    exact lawful.append fun effect member => answersInFlight_of_unanswering (each effect member)
  · obtain ⟨-, -, -, first, rest, same, sent⟩ := sound.carries waiting
    obtain ⟨rfl, rfl⟩ := List.cons.inj (oldest.symm.trans same)
    obtain ⟨sequence, assigned⟩ := Option.isSome_iff_exists.mp sent
    have numbered := orderly.numbered
    rw [oldest] at numbered
    have own : sequence = UInt8.ofNat (settled host.world.journal) := by
      have number := numbered.getD
      rwa [assigned, Option.getD_some] at number
    let heard : List Effect := [.reported (.frameReceived response.commandId response.sequence
      response.parameters), .waitEnded]
    have apart : ∀ effect ∈ heard, effect.IsApart :=
      List.forall_mem_cons.mpr ⟨⟨rfl, rfl, rfl⟩, List.forall_mem_singleton.mpr ⟨rfl, rfl, rfl⟩⟩
    rw [journal]
    refine Lawful.concat_iff.mpr ⟨lawful.append ?_, ?_⟩
    · intro effect member
      exact answersInFlight_of_unanswering (apart effect member).answered
    · rintro answered reply same
      obtain ⟨rfl, rfl⟩ := Effect.answered.inj same
      refine ⟨matching.symm, ?_, _, rfl, orderly.inFlight waiting, (orderly.oldest oldest).1⟩
      rw [settled_apart apart, assigned, own]

theorem answersInFlight_run (settings : Settings) (port : Port) (now : Nat)
    (history : List Operation) :
    Lawful AnswersInFlight ((ofSettings settings { port, now }).run history).world.journal :=
  let kept (_ : Option Engine) (host : Host) := host.standing.Sound settings.timeouts ∧
    Orderly host ∧ Lawful AnswersInFlight host.world.journal
  have ⟨_, holds⟩ := run_of_moves (P := kept)
    (fun _ _ _ move before => ⟨move.sound before.1, move.orderly before.1 before.2.1,
      move.answersInFlight before.1 before.2.1 before.2.2⟩)
    (fun _ _ bytes before => ⟨before.1.record trivial, before.2.1.record trivial,
      Lawful.concat_iff.mpr ⟨before.2.2,
        answersInFlight_of_unanswering (show (Effect.received bytes).Unanswering from rfl) _⟩⟩)
    none ⟨.of_idle rfl rfl rfl rfl, orderly_start settings port now, .nil⟩ history
  holds.2.2

/-- If the entry settles a command, then by a payload among these events. -/
def AnswersAmong (events : List LinkEvent) (effect : Effect) : Prop :=
  ∀ command response, effect = .answered command response →
    ∃ payload, .payload payload ∈ events ∧ Ezsp.Frame.decode payload = .ok response

theorem answersAmong_of_unanswering {effect : Effect} (unanswering : effect.Unanswering)
    (events : List LinkEvent) : AnswersAmong events effect := by
  rintro command response rfl
  cases unanswering

theorem adds_acknowledge (host : Host) :
    World.Adds Effect.Unanswering host.world host.acknowledge.world := by
  have acknowledged : World.Adds Effect.Unanswering host.world host.acknowledged.world :=
    host.link.adds_acknowledge host.world fun _ _ => rfl
  rcases host.acknowledge_cases with ⟨-, same⟩ | ⟨-, same | ⟨error, same⟩⟩
  · rw [same]
    exact .refl _
  · rw [same]
    exact acknowledged
  · rw [same]
    exact acknowledged.record rfl

/-- Whatever follows an answer settles nothing more. -/
theorem adds_complete (host : Host) (response : Ezsp.Frame) (command : Ezsp.Command)
    (later : List Ezsp.Command) :
    World.Adds Effect.Unanswering (host.answeredBy response command later).world
      (host.complete response command later).world := by
  let settled := host.answeredBy response command later
  rw [complete_eq]
  split
  · have entered : Moves none { settled with launchPending := false } _ := .single (.enter .upload)
    exact entered.unanswering (by decide)
  · have sent : Moves none settled (attempt .sendNext settled.sendNext) :=
      Moves.attempt (moves_sendNext settled)
    exact sent.unanswering (by decide)

theorem adds_handlePayload (host : Host) {payload : List UInt8} {events : List LinkEvent}
    (member : .payload payload ∈ events) :
    World.Adds (AnswersAmong events) host.world (host.handlePayload payload).world := by
  have unanswering {before after : World} (adds : World.Adds Effect.Unanswering before after) :
      World.Adds (AnswersAmong events) before after :=
    adds.mono fun _ none => answersAmong_of_unanswering none events
  have acknowledged := adds_acknowledge host
  rcases host.handlePayload_cases payload with
    ⟨error, -, same⟩ | ⟨frame, decoded, told⟩
  · rw [same]
    exact unanswering (acknowledged.record rfl)
  · have heard : World.Adds Effect.Unanswering host.world
        (host.acknowledge.heard frame).world := acknowledged.record rfl
    rcases told with same | ⟨-, command, later, -, -, same⟩
    · rw [same]
      exact unanswering (heard.record rfl)
    · have ended : World.Adds Effect.Unanswering host.world
          (host.acknowledge.heard frame).endWait.world := heard.record rfl
      have own : AnswersAmong events (.answered command frame) := by
        intro other response same
        obtain ⟨-, rfl⟩ := Effect.answered.inj same
        exact ⟨payload, member, decoded⟩
      rw [same]
      exact ((unanswering ended).record own).trans (unanswering (adds_complete _ _ _ _))

theorem adds_handleLinkEvent (host : Host) {event : LinkEvent} {events : List LinkEvent}
    (member : event ∈ events) :
    World.Adds (AnswersAmong events) host.world (host.handleLinkEvent event).world := by
  by_cases told : ∃ payload, event = .payload payload
  · obtain ⟨payload, rfl⟩ := told
    exact adds_handlePayload host member
  · have moves : Moves none host (host.handleLinkEvent event) :=
      moves_handleLinkEvent host event fun payload same => absurd ⟨payload, same⟩ told
    exact (moves.unanswering (by decide)).mono fun _ none => answersAmong_of_unanswering none _

theorem adds_foldl_handleLinkEvent (host : Host) {events later : List LinkEvent}
    (each : ∀ event ∈ later, event ∈ events) :
    World.Adds (AnswersAmong events) host.world (later.foldl handleLinkEvent host).world := by
  induction later generalizing host with
  | nil => exact .refl _
  | cons event later ih =>
    exact (adds_handleLinkEvent host (each event List.mem_cons_self)).trans
      (ih _ fun other member => each other (List.mem_cons_of_mem _ member))

/-- What bytes may settle: a command, if they come for the link and end a DATA frame. -/
theorem adds_receive (host : Host) (bytes : List UInt8) :
    World.Adds
      (fun effect => ∀ command response, effect = .answered command response →
        host.active = .link ∧ ∃ payload,
          .payload payload ∈
            (host.link.receive (host.record (.received bytes)).world bytes).1 ∧
          Ezsp.Frame.decode payload = .ok response)
      (host.record (.received bytes)).world (host.receive bytes).world := by
  cases active : host.active with
  | link =>
    let arrived := host.record (.received bytes)
    let intake := arrived.link.receive arrived.world bytes
    let told : Host := { arrived with link := intake.2.1, world := intake.2.2 }
    have read : World.Adds Effect.Unanswering arrived.world told.world :=
      arrived.link.adds_receive arrived.world bytes (fun _ _ => rfl) rfl
    have handled : World.Adds (AnswersAmong intake.1) arrived.world
        (intake.1.foldl handleLinkEvent told).world :=
      (read.mono fun _ none => answersAmong_of_unanswering none _).trans
        (adds_foldl_handleLinkEvent told fun _ member => member)
    have same : host.receive bytes = intake.1.foldl handleLinkEvent told := by
      simp only [told, intake, arrived, receive, record, active]
    rw [same]
    exact handled.mono fun _ among command response answered =>
      ⟨rfl, among command response answered⟩
  | console =>
    have moves := moves_receive host bytes
    rw [active] at moves
    refine (moves.unanswering (by decide)).mono ?_
    rintro effect none command response rfl
    cases none

/-- All that is done but reading settles nothing. -/
theorem adds_step (host : Host) {operation : Operation}
    (silent : ∀ bytes, operation ≠ .receive bytes) :
    World.Adds Effect.Unanswering host.world (host.step operation).world := by
  have moves : Moves none host (host.step operation) := moves_step host operation silent
  exact moves.unanswering (by decide)

/-- The journal only grows. -/
theorem journal_run (host : Host) (history : List Operation) :
    host.world.journal <+: (host.run history).world.journal := by
  induction history generalizing host with
  | nil => exact List.prefix_rfl
  | cons operation later ih =>
    refine List.IsPrefix.trans ?_ (ih _)
    by_cases heard : ∃ bytes, operation = .receive bytes
    · obtain ⟨bytes, rfl⟩ := heard
      obtain ⟨added, journal, -⟩ := adds_receive host bytes
      have grown : (host.step (.receive bytes)).world.journal =
          host.world.journal ++ [.received bytes] ++ added := journal
      rw [grown, List.append_assoc]
      exact List.prefix_append _ _
    · obtain ⟨added, journal, -⟩ := adds_step host fun bytes same => heard ⟨bytes, same⟩
      rw [journal]
      exact List.prefix_append _ _

/-- An entry that was not there before is among those added. -/
theorem split_added {base added before middle : List Effect} {entry : Effect}
    (split : base ++ added = before ++ entry :: middle) (new : base.length ≤ before.length) :
    ∃ shown, before = base ++ shown ∧ added = shown ++ entry :: middle := by
  rcases List.append_eq_append_iff.mp split with ⟨shown, same, rest⟩ | ⟨shown, same, rest⟩
  · exact ⟨shown, same, rest⟩
  · have none : shown = [] := by
      rw [same, List.length_append] at new
      exact List.length_eq_zero_iff.mp (by omega)
    subst none
    exact ⟨[], by simpa using same.symm, by simpa using rest.symm⟩

/-- An entry of the journal was added by one of the operations. -/
theorem exists_step {history : List Operation} {before after : List Effect} {entry : Effect}
    (split : (host.run history).world.journal = before ++ entry :: after)
    (new : host.world.journal.length ≤ before.length) :
    ∃ earlier operation later shown middle, history = earlier ++ operation :: later ∧
      before = (host.run earlier).world.journal ++ shown ∧
      ((host.run earlier).step operation).world.journal =
        (host.run earlier).world.journal ++ (shown ++ entry :: middle) := by
  induction history generalizing host with
  | nil =>
    have short := congrArg List.length split
    rw [run_nil, List.length_append, List.length_cons] at short
    omega
  | cons operation rest ih =>
    by_cases later : (host.step operation).world.journal.length ≤ before.length
    · obtain ⟨earlier, other, back, shown, middle, rfl, found⟩ := ih split later
      exact ⟨operation :: earlier, other, back, shown, middle, rfl, found⟩
    · -- The entry is one that this operation has added.
      have whole : before ++ [entry] <+: (host.run (operation :: rest)).world.journal := by
        rw [split]
        exact ⟨after, by simp⟩
      obtain ⟨middle, own⟩ := List.prefix_of_prefix_length_le whole
        (journal_run (host.step operation) rest) (by simp; omega)
      rw [List.append_assoc, List.singleton_append] at own
      obtain ⟨added, grown⟩ := journal_run host [operation]
      obtain ⟨shown, rfl, rfl⟩ := split_added (grown.trans own.symm) new
      exact ⟨[], operation, rest, shown, middle, rfl, rfl, grown.symm⟩

/-- A command is settled while bytes are handled that came for the link, by a payload that
these bytes complete. -/
theorem exists_receive {history : List Operation} {before after : List Effect}
    {command : Ezsp.Command} {response : Ezsp.Frame}
    (split : (host.run history).world.journal = before ++ .answered command response :: after)
    (new : host.world.journal.length ≤ before.length) :
    ∃ earlier bytes later, history = earlier ++ .receive bytes :: later ∧
      (host.run earlier).active = .link ∧
      (∃ shown, before = (host.run earlier).world.journal ++ .received bytes :: shown) ∧
      ∃ payload,
        .payload payload ∈ ((host.run earlier).link.receive
          ((host.run earlier).record (.received bytes)).world bytes).1 ∧
        Ezsp.Frame.decode payload = .ok response := by
  obtain ⟨earlier, operation, later, shown, middle, rfl, rfl, journal⟩ := exists_step split new
  by_cases heard : ∃ bytes, operation = .receive bytes
  · obtain ⟨bytes, rfl⟩ := heard
    obtain ⟨added, grown, each⟩ := adds_receive (host.run earlier) bytes
    have same : .received bytes :: added = shown ++ .answered command response :: middle :=
      List.append_cancel_left ((List.append_cons _ _ _).trans (grown.symm.trans journal))
    cases shown with
    | nil => cases same
    | cons entry shown =>
      obtain ⟨rfl, rfl⟩ := List.cons.inj same
      obtain ⟨active, answered⟩ := each _ (by simp) command response rfl
      exact ⟨earlier, bytes, later, rfl, active, ⟨shown, rfl⟩, answered⟩
  · obtain ⟨added, grown, each⟩ := adds_step (host.run earlier) fun bytes same => heard ⟨bytes, same⟩
    have same := List.append_cancel_left (grown.symm.trans journal)
    have none : (Effect.answered command response).Unanswering := each _ (by simp [same])
    cases none

/-- The queue holds the commands submitted and not answered. Every command that leaves it
is answered by a frame with its id that came in a DATA frame, handled for the link right
before; and the host handled it when the port had taken the command, under its number and
its id, and no other command had been settled since. The bytes that brought it may have come
before that, if the command went out while they were handled; and the number that the
response carries is not looked at. -/
theorem answered_by_id_in_flight (settings : Settings) (port : Port) (now : Nat)
    (history : List Operation) :
    let host := (ofSettings settings { port, now }).run history
    let journal := host.world.journal
    host.queue.map Ezsp.Command.unsent = (submitted journal).drop (settled journal) ∧
    ∀ before after command response, journal = before ++ .answered command response :: after →
      let number := settled before
      response.commandId = command.id ∧
      command.sequence = some (UInt8.ofNat number) ∧
      (submitted before)[number]? = some command.unsent ∧
      (∃ early sent middle, before = early ++ sent :: middle ∧
        sent.carried? = some (Ezsp.Frame.encode (UInt8.ofNat number) command.id
          command.parameters) ∧
        settled early = number ∧
        .reported (.frameReceived response.commandId response.sequence response.parameters) ∈
          middle) ∧
      ∃ earlier bytes later, history = earlier ++ .receive bytes :: later ∧
        let host := (ofSettings settings { port, now }).run earlier
        host.active = .link ∧
        (∃ shown, before = host.world.journal ++ .received bytes :: shown) ∧
        ∃ payload,
          .payload payload ∈ (host.link.receive (host.record (.received bytes)).world bytes).1 ∧
          Ezsp.Frame.decode payload = .ok response := by
  intro host journal
  have orderly := orderly_run settings port now history
  refine ⟨orderly.queue, ?_⟩
  intro before after command response split number
  have lawful : Lawful InOrder (before ++ .answered command response :: after) :=
    split ▸ orderly.lawful
  obtain ⟨matching, assigned, front, rfl, inFlight, oldest⟩ :=
    answersInFlight_run settings port now history before _ after split command response rfl
  have apart : ∀ effect ∈ [.reported (.frameReceived response.commandId response.sequence
      response.parameters), .waitEnded], Effect.IsApart effect :=
    List.forall_mem_cons.mpr ⟨⟨rfl, rfl, rfl⟩, List.forall_mem_singleton.mpr ⟨rfl, rfl, rfl⟩⟩
  have same : number = settled front := settled_apart apart
  obtain ⟨early, sent, middle, rfl, count, carried⟩ :=
    inFlight.carries lawful.front.front oldest
  refine ⟨matching, assigned, ?_, ?_, exists_receive split (Nat.zero_le _)⟩
  · rw [same, submitted_apart apart]
    exact oldest
  · exact ⟨early, sent, _, List.append_assoc _ _ _, same ▸ carried, count.trans same.symm, by simp⟩

/-- Two messages with the id of the commands come in one piece while the first command is in
flight: the second message answers the command that goes out in between. -/
theorem answered_by_id_in_flight_between :
    let message number := (Wire.Frame.data number 1 false [0x77, 0x80, 0xFF, 0x00, 0x05]).wire
    let history : List Operation := [.openPort, .receive (Wire.Frame.resetAck .powerOn).wire,
      .submit 0x05 [], .submit 0x05 [0x01], .receive (message 0 ++ message 1)]
    let journal := ((ofSettings {} { port := { name := "line" } }).run history).world.journal
    let before := journal.take 24
    journal = before ++ .answered ⟨0x05, [0x01], some 1⟩ ⟨0x77, 0x80, 0x05, []⟩ ::
      journal.drop 25 ∧
    ∃ early sent middle, before = early ++ sent :: middle ∧
      sent.carried? = some (Ezsp.Frame.encode 1 0x05 [0x01]) ∧
      .reported (.frameReceived 0x05 0x77 []) ∈ middle := by
  intro message history journal before
  have split : journal = before ++ .answered ⟨0x05, [0x01], some 1⟩ ⟨0x77, 0x80, 0x05, []⟩ ::
      journal.drop 25 := by
    decide +kernel
  obtain ⟨-, number, -, ⟨early, sent, middle, same, carried, -, heard⟩, -⟩ :=
    (answered_by_id_in_flight {} { name := "line" } 0 history).2 _ _ _ _ split
  rw [← Option.some.inj number] at carried
  exact ⟨split, early, sent, middle, same, carried, heard⟩

/-- A response need not carry the number of the command that it answers, and it may have
come before that command went out. -/
theorem answered_without_own_response :
    let line : Host := ofSettings {} { port := { name := "line" } }
    (¬ ∀ history before after command response,
      (line.run history).world.journal = before ++ .answered command response :: after →
        command.sequence = some response.sequence) ∧
    ¬ ∀ earlier bytes before after command response,
      (line.run (earlier ++ [.receive bytes])).world.journal =
          before ++ .answered command response :: after →
        (line.run earlier).world.journal.length ≤ before.length →
        ∀ sequence, command.sequence = some sequence →
          ∃ sent ∈ (line.run earlier).world.journal, sent.carried? =
            some (Ezsp.Frame.encode sequence command.id command.parameters) := by
  intro line
  let message number sequence :=
    (Wire.Frame.data number 1 false [sequence, 0x80, 0xFF, 0x00, 0x05]).wire
  let asked : List Operation := [.openPort, .receive (Wire.Frame.resetAck .powerOn).wire,
    .submit 0x05 []]
  constructor
  · intro always
    let journal := (line.run (asked ++ [.receive (message 0 0x77)])).world.journal
    have split : journal = journal.take 17 ++
        .answered ⟨0x05, [], some 0⟩ ⟨0x77, 0x80, 0x05, []⟩ :: journal.drop 18 := by
      decide +kernel
    have own := always _ _ _ _ _ split
    exact absurd own (by decide)
  · intro always
    let earlier := asked ++ [.submit 0x05 [0x01]]
    let journal := (line.run (earlier ++ [.receive (message 0 0 ++ message 1 1)])).world.journal
    have split : journal = journal.take 24 ++
        .answered ⟨0x05, [0x01], some 1⟩ ⟨1, 0x80, 0x05, []⟩ :: journal.drop 25 := by
      decide +kernel
    have sent := always earlier _ _ _ _ _ split (by decide +kernel) 1 rfl
    revert sent
    decide +kernel

end Host
end NcpHost
