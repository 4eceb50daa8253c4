import NcpHost.Proofs.History
import NcpHost.Proofs.Host.Wait

/-! Commands go out in the order in which they joined the queue, each under its
place in that order, and the next one only after the last was delivered and
answered. Both the order and the answers are read off the journal. -/
namespace NcpHost

/-- What a DATA frame carries. -/
def Transmission.payload? : Transmission → Option (List UInt8)
  | .frame (.data _ _ _ payload) => some payload
  | _ => none

/-- A command as it was submitted. -/
def Ezsp.Command.unsent (command : Ezsp.Command) : Ezsp.Command :=
  { command with sequence := none }

namespace Effect

/-- The content of a DATA frame that was handed to the port. -/
def offered? (effect : Effect) : Option (List UInt8) :=
  effect.transmission?.bind Transmission.payload?

/-- The content of a DATA frame that the port accepted in full. -/
def carried? (effect : Effect) : Option (List UInt8) :=
  effect.delivered?.bind Transmission.payload?

def queued? : Effect → Option Ezsp.Command
  | .queued command => some command
  | _ => none

def answered? : Effect → Option Ezsp.Command
  | .answered command _ => some command
  | _ => none

theorem offered?_of_carried? {effect : Effect} {payload : List UInt8}
    (carried : effect.carried? = some payload) : effect.offered? = some payload := by
  cases effect with
  | sent what outcome =>
    simp only [carried?, delivered?] at carried
    split at carried
    · exact carried
    · cases carried
  | received | reported | noted | queued | answered | handedOver | handedBack | waitEnded =>
    cases carried

/-- The entry has nothing to do with commands. -/
structure IsApart (effect : Effect) : Prop where
  offered : effect.offered? = none
  queued : effect.queued? = none
  answered : effect.answered? = none

theorem IsQuiet.isApart {effect : Effect} (quiet : effect.IsQuiet) : effect.IsApart := by
  cases effect with
  | received | reported | noted | handedOver | handedBack | waitEnded => exact ⟨rfl, rfl, rfl⟩
  | queued | answered => exact quiet.elim
  | sent what outcome =>
    cases what with
    | probe | choice => exact ⟨rfl, rfl, rfl⟩
    | frame content =>
      cases content with
      | reset | data => exact quiet.elim
      | ack | nak | resetAck => exact ⟨rfl, rfl, rfl⟩

end Effect

namespace Journal

/-- The commands that joined the queue; a command's place here is its number. -/
def submitted (journal : List Effect) : List Ezsp.Command :=
  journal.filterMap Effect.queued?

/-- How many commands have left the queue, which is the number of the next. -/
def settled (journal : List Effect) : Nat :=
  (journal.filterMap Effect.answered?).length

variable {journal added : List Effect}

@[simp] theorem submitted_append (front back : List Effect) :
    submitted (front ++ back) = submitted front ++ submitted back :=
  List.filterMap_append

@[simp] theorem settled_append (front back : List Effect) :
    settled (front ++ back) = settled front + settled back := by
  simp [settled]

theorem submitted_apart (apart : ∀ effect ∈ added, effect.IsApart) :
    submitted (journal ++ added) = submitted journal := by
  have nothing : submitted added = [] :=
    List.filterMap_eq_nil_iff.mpr fun effect member => (apart effect member).queued
  rw [submitted_append, nothing, List.append_nil]

theorem settled_apart (apart : ∀ effect ∈ added, effect.IsApart) :
    settled (journal ++ added) = settled journal := by
  have nothing : added.filterMap Effect.answered? = [] :=
    List.filterMap_eq_nil_iff.mpr fun effect member => (apart effect member).answered
  rw [settled_append, settled, settled, nothing, List.length_nil, Nat.add_zero]

/-- DATA carries the oldest command without an answer, under its number. -/
def CarriesOldest (before : List Effect) (entry : Effect) : Prop :=
  ∀ payload, entry.offered? = some payload →
    ∃ command, (submitted before)[settled before]? = some command ∧
      payload = Ezsp.Frame.encode (UInt8.ofNat (settled before)) command.id command.parameters

/-- DATA was delivered while as many commands were settled as now. -/
def InFlight (journal : List Effect) : Prop :=
  ∃ early sent payload middle, journal = early ++ sent :: middle ∧
    sent.carried? = some payload ∧ settled early = settled journal

/-- DATA was delivered while as many commands were settled as now, and then a frame
with this id came in. -/
def Responded (id : UInt8) (journal : List Effect) : Prop :=
  ∃ early sent payload middle sequence parameters, journal = early ++ sent :: middle ∧
    sent.carried? = some payload ∧ settled early = settled journal ∧
    .reported (.frameReceived id sequence parameters) ∈ middle

/-- An answer is to the oldest command, and comes after the response to it. -/
def AnswersOldest (before : List Effect) (entry : Effect) : Prop :=
  ∀ command, entry.answered? = some command →
    (submitted before)[settled before]? = some command.unsent ∧
      Responded command.id before

def InOrder (before : List Effect) (entry : Effect) : Prop :=
  CarriesOldest before entry ∧ AnswersOldest before entry

theorem inOrder_apart {entry : Effect} (apart : entry.IsApart) (before : List Effect) :
    InOrder before entry := by
  constructor
  · intro payload offered
    rw [apart.offered] at offered
    contradiction
  · intro command answered
    rw [apart.answered] at answered
    contradiction

theorem InFlight.append (inFlight : InFlight journal)
    (apart : ∀ effect ∈ added, effect.IsApart) : InFlight (journal ++ added) := by
  obtain ⟨early, sent, payload, middle, rfl, carried, same⟩ := inFlight
  refine ⟨early, sent, payload, middle ++ added, by simp, carried, ?_⟩
  rw [same, settled_apart apart]

theorem InFlight.responded {id sequence : UInt8} {parameters : List UInt8}
    (inFlight : InFlight journal) (apart : ∀ effect ∈ added, effect.IsApart)
    (heard : .reported (.frameReceived id sequence parameters) ∈ added) :
    Responded id (journal ++ added) := by
  obtain ⟨early, sent, payload, middle, rfl, carried, same⟩ := inFlight
  refine ⟨early, sent, payload, middle ++ added, sequence, parameters, by simp, carried, ?_,
    List.mem_append_right _ heard⟩
  rw [same, settled_apart apart]

end Journal

namespace Host

open Journal

/-- The oldest command alone may have a sequence number: its own number in the
order of submission, which is `count`. The next one to be assigned follows. -/
def Numbered (next : UInt8) (count : Nat) : List Ezsp.Command → Prop
  | [] => next = UInt8.ofNat count
  | command :: later => (∀ other ∈ later, other.sequence = none) ∧
    match command.sequence with
    | none => next = UInt8.ofNat count
    | some sequence => sequence = UInt8.ofNat count ∧ next = UInt8.ofNat (count + 1)

namespace Numbered

variable {next : UInt8} {count : Nat} {queue later : List Ezsp.Command} {command : Ezsp.Command}

theorem concat (numbered : Numbered next count queue) (unsent : command.sequence = none) :
    Numbered next count (queue ++ [command]) := by
  cases queue with
  | nil =>
    refine ⟨by simp, ?_⟩
    rw [unsent]
    exact numbered
  | cons oldest later =>
    refine ⟨?_, numbered.2⟩
    intro other member
    rcases List.mem_append.mp member with before | last
    · exact numbered.1 other before
    · rw [List.mem_singleton.mp last, unsent]

/-- The command that goes out has its number. -/
theorem getD (numbered : Numbered next count (command :: later)) :
    command.sequence.getD next = UInt8.ofNat count := by
  obtain ⟨-, own⟩ := numbered
  cases assigned : command.sequence with
  | none => rw [assigned] at own; exact own
  | some sequence => rw [assigned] at own; exact own.1

theorem send (numbered : Numbered next count (command :: later)) :
    Numbered (if command.sequence.isSome then next else next + 1) count
      ({ command with sequence := some (command.sequence.getD next) } :: later) := by
  refine ⟨numbered.1, numbered.getD, ?_⟩
  obtain ⟨-, own⟩ := numbered
  cases assigned : command.sequence with
  | none =>
    rw [assigned] at own
    rw [own]
    exact (UInt8.ofNat_add count 1).symm
  | some sequence => rw [assigned] at own; exact own.2

/-- After the answer the next command has not been sent yet. -/
theorem tail (numbered : Numbered next count (command :: later))
    (sent : command.sequence.isSome = true) : Numbered next (count + 1) later := by
  obtain ⟨unsent, own⟩ := numbered
  obtain ⟨sequence, assigned⟩ := Option.isSome_iff_exists.mp sent
  rw [assigned] at own
  cases later with
  | nil => exact own.2
  | cons command rest =>
    refine ⟨fun other member => unsent other (List.mem_cons_of_mem _ member), ?_⟩
    rw [unsent command List.mem_cons_self]
    exact own.2

end Numbered

structure Orderly (host : Host) : Prop where
  lawful : Lawful InOrder host.world.journal
  /-- The queue holds the commands not settled, and nothing else. -/
  queue : host.queue.map Ezsp.Command.unsent =
    (submitted host.world.journal).drop (settled host.world.journal)
  bound : settled host.world.journal ≤ (submitted host.world.journal).length
  numbered : Numbered host.nextSequence (settled host.world.journal) host.queue
  inFlight : host.waiting = true → InFlight host.world.journal

variable {host host' : Host}

/-- The commands are as they were, and so is what the journal says of them. -/
structure Apart (host host' : Host) : Prop where
  queue : host'.queue = host.queue
  nextSequence : host'.nextSequence = host.nextSequence
  waiting : host'.waiting = true → host.waiting = true
  journal : ∃ added, host'.world.journal = host.world.journal ++ added ∧
    ∀ effect ∈ added, effect.IsApart

theorem Apart.of_quiet (queue : host'.queue = host.queue)
    (nextSequence : host'.nextSequence = host.nextSequence)
    (waiting : host'.waiting = true → host.waiting = true)
    (quiet : World.Quiet host.world host'.world) : Apart host host' := by
  obtain ⟨added, journal, each⟩ := quiet
  exact ⟨queue, nextSequence, waiting, added, journal,
    fun effect member => (each effect member).isApart⟩

theorem Orderly.apart (orderly : Orderly host) (apart : Apart host host') : Orderly host' := by
  obtain ⟨queue, nextSequence, waiting, added, journal, each⟩ := apart
  have same : submitted host'.world.journal = submitted host.world.journal := by
    rw [journal, submitted_apart each]
  have still : settled host'.world.journal = settled host.world.journal := by
    rw [journal, settled_apart each]
  refine ⟨?_, ?_, ?_, ?_, ?_⟩
  · rw [journal]
    exact orderly.lawful.append fun effect member => inOrder_apart (each effect member)
  · rw [queue, same, still]
    exact orderly.queue
  · rw [same, still]
    exact orderly.bound
  · rw [queue, nextSequence, still]
    exact orderly.numbered
  · intro inFlight
    rw [journal]
    exact (orderly.inFlight (waiting inFlight)).append each

/-- The oldest command is the one with the next number. -/
theorem Orderly.oldest {command : Ezsp.Command} {later : List Ezsp.Command}
    (orderly : Orderly host) (oldest : host.queue = command :: later) :
    (submitted host.world.journal)[settled host.world.journal]? = some command.unsent ∧
      later.map Ezsp.Command.unsent =
        (submitted host.world.journal).drop (settled host.world.journal + 1) := by
  have queue := orderly.queue
  rw [oldest, List.map_cons] at queue
  constructor
  · rw [← List.head?_drop, ← queue, List.head?_cons]
  · rw [← List.tail_drop, ← queue, List.tail_cons]

theorem Orderly.enqueue {command : Ezsp.Command} (orderly : Orderly host)
    (fresh : command.sequence = none) :
    Orderly ({ host with queue := host.queue ++ [command] }.record (.queued command)) := by
  have joined : submitted (host.world.journal ++ [.queued command]) =
      submitted host.world.journal ++ [command] := submitted_append _ _
  have still : settled (host.world.journal ++ [.queued command]) =
      settled host.world.journal := settled_append _ _
  have same : command.unsent = command := by rw [Ezsp.Command.unsent, ← fresh]
  refine ⟨?_, ?_, ?_, ?_, ?_⟩
  · refine Lawful.concat_iff.mpr ⟨orderly.lawful, ?_, ?_⟩
    · intro payload offered
      contradiction
    · intro command answered
      contradiction
  · change (host.queue ++ [command]).map Ezsp.Command.unsent =
      (submitted (host.world.journal ++ [.queued command])).drop
        (settled (host.world.journal ++ [.queued command]))
    rw [joined, still, List.drop_append_of_le_length orderly.bound, ← orderly.queue,
      List.map_append, List.map_singleton, same]
  · change settled (host.world.journal ++ [.queued command]) ≤
      (submitted (host.world.journal ++ [.queued command])).length
    rw [joined, still, List.length_append]
    exact Nat.le_add_right_of_le orderly.bound
  · change Numbered host.nextSequence (settled (host.world.journal ++ [.queued command])) _
    rw [still]
    exact orderly.numbered.concat fresh
  · intro waiting
    obtain ⟨early, sent, payload, middle, journal, carried, count⟩ := orderly.inFlight waiting
    refine ⟨early, sent, payload, middle ++ [.queued command], ?_, carried, ?_⟩
    · change host.world.journal ++ [.queued command] = _
      rw [journal, List.append_assoc, List.cons_append]
    · exact count.trans still.symm

/-- The link hands one DATA frame to the port, and says whether it was accepted. -/
theorem send_entry (link : Link) (world : World) (payload : List UInt8) :
    ∃ added entry, (link.send world payload).2.2.journal = world.journal ++ added ++ [entry] ∧
      (∀ effect ∈ added, effect.IsApart) ∧ entry.offered? = some payload ∧
      entry.queued? = none ∧ entry.answered? = none ∧
      ((link.send world payload).1.isOk = true → entry.carried? = some payload) := by
  refine ⟨_, _, link.send_journal world payload, ?_, rfl, rfl, rfl, ?_⟩
  · intro effect member
    obtain ⟨note, -, rfl⟩ := List.mem_map.mp member
    exact ⟨rfl, rfl, rfl⟩
  · intro accepted
    rw [Link.send_eq] at accepted
    have delivered : (Effect.sent (.frame (link.endpoint.data payload).1)
        (world.port.write (link.endpoint.data payload).1.wire).1).delivered? =
          some (.frame (link.endpoint.data payload).1) := if_pos accepted
    rw [Effect.carried?, delivered]
    rfl

/-- The oldest command goes out under its number. -/
theorem Orderly.send {command : Ezsp.Command} {later : List Ezsp.Command}
    (orderly : Orderly host) (can : host.CanSend) (oldest : host.queue = command :: later) :
    Orderly { host with waiting := false }.sendNext.2 := by
  have numbered := orderly.numbered
  rw [oldest] at numbered
  obtain ⟨added, entry, journal, apart, offered, queued, answered, accepted⟩ :=
    send_entry host.link host.world (Ezsp.Frame.encode
      (command.sequence.getD host.nextSequence) command.id command.parameters)
  have same : submitted (host.world.journal ++ added ++ [entry]) =
      submitted host.world.journal := by
    rw [submitted_append, submitted_apart apart]
    simp [submitted, queued]
  have still : settled (host.world.journal ++ added ++ [entry]) =
      settled host.world.journal := by
    rw [settled_append, settled_apart apart]
    simp [settled, answered]
  rw [sendNext_of_can host can oldest]
  refine ⟨?_, ?_, ?_, ?_, ?_⟩ <;> dsimp only <;> rw [journal]
  · refine Lawful.concat_iff.mpr ⟨orderly.lawful.append fun effect member =>
      inOrder_apart (apart effect member), ?_, ?_⟩
    · intro payload carried
      rw [submitted_apart apart, settled_apart apart]
      refine ⟨_, (orderly.oldest oldest).1, ?_⟩
      rw [← numbered.getD]
      exact (Option.some.inj (offered.symm.trans carried)).symm
    · intro command settles
      rw [answered] at settles
      contradiction
  · rw [same, still, ← orderly.queue, oldest]
    rfl
  · rw [same, still]
    exact orderly.bound
  · rw [still]
    exact numbered.send
  · intro waiting
    exact ⟨_, entry, _, [], rfl, accepted waiting, (settled_apart apart).trans still.symm⟩

/-- The answer settles the oldest command; the others have not been sent. -/
theorem Orderly.settle {command : Ezsp.Command} {later : List Ezsp.Command}
    (orderly : Orderly host) (response : Ezsp.Frame) (oldest : host.queue = command :: later)
    (sent : command.sequence.isSome = true)
    (responded : Responded command.id host.world.journal) :
    Orderly { host.record (.answered command response) with
      queue := later
      waiting := false } := by
  have same : submitted (host.world.journal ++ [.answered command response]) =
      submitted host.world.journal := by
    rw [submitted_append]
    exact List.append_nil _
  have next : settled (host.world.journal ++ [.answered command response]) =
      settled host.world.journal + 1 := settled_append _ _
  have numbered := orderly.numbered
  rw [oldest] at numbered
  obtain ⟨own, others⟩ := orderly.oldest oldest
  refine ⟨?_, ?_, ?_, ?_, by intro waiting; contradiction⟩
  all_goals dsimp only [record, World.journal_record]
  · refine Lawful.concat_iff.mpr ⟨orderly.lawful, ?_, ?_⟩
    · intro payload offered
      contradiction
    · intro answered settles
      obtain rfl := Option.some.inj settles
      exact ⟨own, responded⟩
  · rw [same, next]
    exact others
  · rw [same, next]
    exact (List.getElem?_eq_some_iff.mp own).1
  · rw [next]
    exact numbered.tail sent

/-- The response to the oldest command comes in, then the command is settled. -/
theorem Orderly.answer {response : Ezsp.Frame} {command : Ezsp.Command}
    {later : List Ezsp.Command} (orderly : Orderly host) (inFlight : host.waiting = true)
    (oldest : host.queue = command :: later) (sent : command.sequence.isSome = true)
    (matching : command.id = response.commandId) :
    Orderly { (host.report (.frameReceived response.commandId response.sequence
      response.parameters)).endWait.record (.answered command response) with
      queue := later
      waiting := false } := by
  let heard : List Effect := [.reported (.frameReceived response.commandId response.sequence
    response.parameters), .waitEnded]
  have each : ∀ effect ∈ heard, effect.IsApart :=
    List.forall_mem_cons.mpr ⟨⟨rfl, rfl, rfl⟩, List.forall_mem_singleton.mpr ⟨rfl, rfl, rfl⟩⟩
  have journal : (host.report (.frameReceived response.commandId response.sequence
      response.parameters)).endWait.world.journal = host.world.journal ++ heard :=
    List.append_assoc _ _ _
  have waits : Orderly (host.report (.frameReceived response.commandId response.sequence
      response.parameters)).endWait :=
    orderly.apart ⟨rfl, rfl, id, heard, journal, each⟩
  refine waits.settle response oldest sent ?_
  rw [journal, matching]
  exact (orderly.inFlight inFlight).responded each List.mem_cons_self

theorem apart_reset (opened : host.opened = true) : Apart host host.sendReset.2 := by
  have sent : ∀ outcome, (Effect.sent (.frame .reset) outcome).IsApart :=
    fun _ => ⟨rfl, rfl, rfl⟩
  have noted : ∀ note, (Effect.noted note).IsApart := fun _ => ⟨rfl, rfl, rfl⟩
  rw [sendReset, if_pos opened, Link.reset_eq]
  refine ⟨rfl, rfl, by intro waiting; contradiction, ?_⟩
  dsimp only
  split
  · exact ⟨[.sent _ _, .noted _], List.append_assoc _ _ _,
      List.forall_mem_cons.mpr ⟨sent _, List.forall_mem_singleton.mpr (noted _)⟩⟩
  · exact ⟨[.sent _ _], rfl, List.forall_mem_singleton.mpr (sent _)⟩

theorem apart_setMode (mode : Mode) : Apart host (host.setMode mode) := by
  have quiet : World.Quiet host.world (host.setMode mode).world :=
    adds_setMode host mode fun _ _ => trivial
  rw [setMode_eq]
  exact .of_quiet rfl rfl id quiet

theorem apart_enterBootloader (goal : MenuEntry) : Apart host (host.enterBootloader goal) := by
  have quiet := quiet_enterBootloader host goal
  rw [enterBootloader_shape]
  exact .of_quiet rfl rfl (by intro waiting; contradiction) quiet

theorem Orderly.record (orderly : Orderly host) {effect : Effect} (quiet : effect.IsQuiet) :
    Orderly (host.record effect) :=
  orderly.apart (.of_quiet rfl rfl id ((World.Adds.refl _).record quiet))

/-- Every move keeps the commands in order. -/
theorem Move.orderly {timeouts : Timeouts} {hearer : Option Engine} (move : Move hearer host host')
    (sound : host.standing.Sound timeouts) (orderly : Orderly host) : Orderly host' := by
  cases move with
  | enqueue command opened fresh => exact orderly.enqueue fresh
  | send command later can oldest => exact orderly.send can oldest
  | answer response command later inFlight oldest matching =>
    obtain ⟨-, -, -, first, rest, same, sent⟩ := sound.carries inFlight
    obtain ⟨rfl, rfl⟩ := List.cons.inj (oldest.symm.trans same)
    exact orderly.answer inFlight oldest sent matching
  | force | port | fireLink | fireConsole | launch | launched | settle | rewind =>
    exact orderly.apart (.of_quiet rfl rfl id (.refl _))
  | hold cannot =>
    exact orderly.apart (.of_quiet rfl rfl (by intro waiting; contradiction) (.refl _))
  | remark effect isRemark => exact orderly.record isRemark.isQuiet
  | mode mode => exact orderly.apart (apart_setMode mode)
  | read bytes active =>
    exact orderly.apart (.of_quiet rfl rfl id
      (host.link.adds_receive host.world bytes (fun _ _ => trivial) trivial))
  | acknowledge opened heard =>
    exact orderly.apart (.of_quiet rfl rfl id
      (host.link.adds_acknowledge host.world fun _ _ => trivial))
  | pollLink =>
    exact orderly.apart (.of_quiet rfl rfl id (host.link.adds_poll host.world fun _ _ => trivial))
  | reset opened active => exact orderly.apart (apart_reset opened)
  | enter goal => exact orderly.apart (apart_enterBootloader goal)
  | readConsole bytes active =>
    exact orderly.apart (.of_quiet rfl rfl id ((World.Adds.refl _).notes _ fun _ _ => trivial))
  | pollConsole opened active =>
    exact orderly.apart (.of_quiet rfl rfl id
      (host.console.adds_poll host.world fun _ => trivial))
  | choose entry opened active =>
    exact orderly.apart (.of_quiet rfl rfl id
      (host.console.adds_choose host.world entry (fun _ => trivial) fun _ _ => trivial))
  | handBack opened =>
    exact orderly.apart (.of_quiet rfl rfl id ((World.Adds.refl _).record trivial))
  | take => exact orderly.apart (.of_quiet rfl rfl id ((World.Adds.refl _).record trivial))
  | close =>
    have quiet : World.Quiet host.world host.closePort.2.world :=
      ⟨[.waitEnded, .handedBack], by simp [closePort, record, endWait, Link.endWait],
        by simp [Effect.IsQuiet]⟩
    exact orderly.apart (.of_quiet rfl rfl (by intro waiting; contradiction) quiet)

theorem orderly_start (settings : Settings) (port : Port) (now : Nat) :
    Orderly (ofSettings settings { port, now }) where
  lawful := .nil
  queue := rfl
  bound := Nat.le_refl _
  numbered := rfl
  inFlight := by intro waiting; contradiction

theorem orderly_run (settings : Settings) (port : Port) (now : Nat) (history : List Operation) :
    Orderly ((ofSettings settings { port, now }).run history) :=
  let kept (_ : Option Engine) (host : Host) := host.standing.Sound settings.timeouts ∧ Orderly host
  have ⟨_, holds⟩ := run_of_moves (P := kept)
    (fun _ _ _ move before => ⟨move.sound before.1, move.orderly before.1 before.2⟩)
    (fun _ _ _ before => ⟨before.1.record trivial, before.2.record trivial⟩)
    none ⟨.of_idle rfl rfl rfl rfl, orderly_start settings port now⟩ history
  holds.2

end Host

namespace Journal

variable {journal before after : List Effect}

/-- A command keeps its number. -/
theorem submitted_stable {number : Nat} {command : Ezsp.Command}
    (found : (submitted before)[number]? = some command) :
    (submitted (before ++ after))[number]? = some command := by
  obtain ⟨bound, -⟩ := List.getElem?_eq_some_iff.mp found
  rw [submitted_append, List.getElem?_append_left bound, found]

/-- If commands are settled, the last of them was answered at some entry. -/
theorem exists_answered {number : Nat} (count : settled journal = number + 1) :
    ∃ early entry command later, journal = early ++ entry :: later ∧
      entry.answered? = some command ∧ settled early = number := by
  have nonempty : journal.filterMap Effect.answered? ≠ [] :=
    List.ne_nil_of_length_eq_add_one count
  have split := List.dropLast_concat_getLast nonempty
  obtain ⟨front, back, rfl, others, last⟩ := List.filterMap_eq_append_iff.mp split.symm
  obtain ⟨quiet, entry, later, rfl, passes, answered, -⟩ := List.filterMap_eq_cons_iff.mp last
  refine ⟨front ++ quiet, entry, _, later, by simp, answered, ?_⟩
  have nothing : quiet.filterMap Effect.answered? = [] :=
    List.filterMap_eq_nil_iff.mpr passes
  rw [settled_append, settled, others, settled, nothing, List.length_dropLast]
  change settled _ - 1 + 0 = number
  rw [count]
  rfl

/-- Before the next command is due, the one before it was delivered and then a frame
with its id came in. -/
theorem responded_before {number : Nat} (lawful : Lawful InOrder before)
    (count : settled before = number + 1) :
    ∃ previous early sent middle sequence parameters,
      (submitted before)[number]? = some previous ∧ before = early ++ sent :: middle ∧
      sent.carried? = some
        (Ezsp.Frame.encode (UInt8.ofNat number) previous.id previous.parameters) ∧
      .reported (.frameReceived previous.id sequence parameters) ∈ middle := by
  obtain ⟨front, entry, command, later, rfl, answered, same⟩ := exists_answered count
  obtain ⟨own, responded⟩ := (lawful front entry later rfl).2 command answered
  obtain ⟨early, sent, payload, middle, sequence, parameters, rfl, carried, still, heard⟩ :=
    responded
  obtain ⟨first, found, rfl⟩ := (lawful early sent (middle ++ entry :: later) (by simp)).1 payload
    (Effect.offered?_of_carried? carried)
  rw [still, same] at found carried
  rw [same] at own
  have agree : first = command.unsent :=
    Option.some.inj ((submitted_stable found).symm.trans own)
  subst agree
  exact ⟨_, early, sent, middle ++ entry :: later, sequence, parameters, submitted_stable own,
    by simp, carried, List.mem_append_left _ heard⟩

/-- Commands with one number go out with one payload. -/
theorem payload_unique {first second : Effect} {between : List Effect}
    {payload repeated : List UInt8} (early : CarriesOldest before first)
    (late : CarriesOldest (before ++ first :: between) second)
    (offered : first.offered? = some payload) (again : second.offered? = some repeated)
    (same : settled before = settled (before ++ first :: between)) : repeated = payload := by
  obtain ⟨command, found, rfl⟩ := early payload offered
  obtain ⟨other, stored, rfl⟩ := late repeated again
  rw [← same] at stored ⊢
  obtain rfl := Option.some.inj ((submitted_stable found).symm.trans stored)
  rfl

end Journal

namespace Host

open Journal

/-- Whatever happens, the queue holds the commands submitted and not settled. A DATA
frame that is handed to the port carries the oldest of them, under its number modulo
256. So commands never go out of turn, a command goes out with the same bytes every
time, and none goes out before the one ahead of it was accepted by the port and a
frame with that command's id came in. -/
theorem commands_in_order (settings : Settings) (port : Port) (now : Nat)
    (history : List Operation) :
    let host := (ofSettings settings { port, now }).run history
    let journal := host.world.journal
    settled journal ≤ (submitted journal).length ∧
    host.queue.map Ezsp.Command.unsent = (submitted journal).drop (settled journal) ∧
    (∀ before entry after payload, journal = before ++ entry :: after →
      entry.offered? = some payload →
      (∃ command, (submitted before)[settled before]? = some command ∧
        payload = Ezsp.Frame.encode (UInt8.ofNat (settled before)) command.id
          command.parameters) ∧
      ∀ number, settled before = number + 1 →
        ∃ previous early sent middle sequence parameters,
          (submitted before)[number]? = some previous ∧ before = early ++ sent :: middle ∧
          sent.carried? = some
            (Ezsp.Frame.encode (UInt8.ofNat number) previous.id previous.parameters) ∧
          .reported (.frameReceived previous.id sequence parameters) ∈ middle) ∧
    (∀ before first between second after payload repeated,
      journal = before ++ first :: between ++ second :: after →
      first.offered? = some payload → second.offered? = some repeated →
      settled before ≤ settled (before ++ first :: between) ∧
        (settled before = settled (before ++ first :: between) → repeated = payload)) := by
  intro host journal
  have orderly : Orderly host := orderly_run settings port now history
  refine ⟨orderly.bound, orderly.queue, ?_, ?_⟩
  · intro before entry after payload split offered
    have lawful : Lawful InOrder (before ++ entry :: after) := split ▸ orderly.lawful
    refine ⟨(lawful before entry after rfl).1 payload offered, ?_⟩
    intro number count
    exact responded_before lawful.front count
  · intro before first between second after payload repeated split offered again
    refine ⟨by simp, ?_⟩
    have early := (orderly.lawful before first (between ++ second :: after)
      (split.trans (by simp))).1
    have late := (orderly.lawful (before ++ first :: between) second after split).1
    exact payload_unique early late offered again

/-- The second command waits until the first, sent twice, has its response. -/
example :
    let host := (ofSettings { retransmitOnAckTimeout := true } { port := { name := "line" } }).run
      [.openPort, .receive (Wire.Frame.resetAck .powerOn).wire, .submit 0x05 [0x01],
        .submit 0x06 [], .fireLink, .poll,
        .receive (Wire.Frame.data 0 1 false [0x00, 0x80, 0xFF, 0x00, 0x05]).wire]
    host.world.journal.filterMap Effect.carried? =
      [[0, 0, 0xFF, 0, 0x05, 0x01], [0, 0, 0xFF, 0, 0x05, 0x01], [1, 0, 0xFF, 0, 0x06]] := by
  decide +kernel

end Host
end NcpHost
