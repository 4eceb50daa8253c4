import Mathlib.Data.List.Induction
import NcpHost.Proofs.History
import NcpHost.Proofs.Host.Move

/-! Whose turn it is to write. The journal tells who has the port and for whom bytes
came last. Nothing but the engine that has the port writes to it, one case apart: all
that came for the link is acknowledged by the link, and if the port passes to the
console while that is being handled, the acknowledgements that are left still go out. -/
namespace NcpHost

/-- The engine that puts it on the line. -/
def Transmission.engine : Transmission → Engine
  | .frame _ => .link
  | .probe | .choice _ => .console

/-- Who has the port, and who had it when bytes came last. -/
structure Turn where
  holder : Engine := .link
  hearer : Option Engine := none
  deriving DecidableEq, Repr

namespace Turn

def after (turn : Turn) : Effect → Turn
  | .handedOver _ => { turn with holder := .console }
  | .handedBack => { turn with holder := .link }
  | .received _ => { turn with hearer := some turn.holder }
  | .sent .. | .reported _ | .noted _ | .queued _ | .answered .. | .waitEnded => turn

def Admits (turn : Turn) : Effect → Prop
  | .sent what _ =>
    what.engine = turn.holder ∨ (∃ number, what = .frame (.ack number)) ∧ turn.hearer = some .link
  | _ => True

end Turn

/-- Entries that leave the port with `engine`; a write is its own. -/
def Effect.BelongsTo (engine : Engine) : Effect → Prop
  | .sent what _ => what.engine = engine
  | .received _ | .handedOver _ | .handedBack => False
  | .reported _ | .noted _ | .queued _ | .answered .. | .waitEnded => True

namespace Effect.BelongsTo

variable {turn : Turn} {effect : Effect}

theorem admits (belongs : effect.BelongsTo turn.holder) : turn.Admits effect := by
  cases effect with
  | sent => exact .inl belongs
  | received | handedOver | handedBack => exact belongs.elim
  | reported | noted | queued | answered | waitEnded => trivial

theorem after_eq (belongs : effect.BelongsTo turn.holder) : turn.after effect = turn := by
  cases effect with
  | received | handedOver | handedBack => exact belongs.elim
  | sent | reported | noted | queued | answered | waitEnded => rfl

end Effect.BelongsTo

namespace Journal

def turn (journal : List Effect) : Turn := journal.foldl Turn.after {}

variable {journal : List Effect} {now : Turn}

theorem turn_concat (entry : Effect) :
    Journal.turn (journal ++ [entry]) = (Journal.turn journal).after entry :=
  List.foldl_append

/-- It is turn `now`, and every entry was admitted by the turn before it. -/
structure InTurn (now : Turn) (journal : List Effect) : Prop where
  turn : Journal.turn journal = now
  lawful : Lawful (fun before entry => (Journal.turn before).Admits entry) journal

theorem InTurn.concat (inTurn : InTurn now journal) {entry : Effect} (admits : now.Admits entry) :
    InTurn (now.after entry) (journal ++ [entry]) where
  turn := by rw [turn_concat, inTurn.turn]
  lawful := Lawful.concat_iff.mpr ⟨inTurn.lawful, by rwa [inTurn.turn]⟩

theorem InTurn.append {added : List Effect} (inTurn : InTurn now journal)
    (each : ∀ entry ∈ added, entry.BelongsTo now.holder) : InTurn now (journal ++ added) := by
  induction added generalizing journal with
  | nil => simpa using inTurn
  | cons entry later ih =>
    have own := each entry List.mem_cons_self
    have first : InTurn now (journal ++ [entry]) := own.after_eq ▸ inTurn.concat own.admits
    rw [List.append_cons]
    exact ih first fun other member => each other (List.mem_cons_of_mem _ member)

/-- Bytes that came last came for the engine that had the port then. -/
theorem split_hearer {engine : Engine} (heard : (Journal.turn journal).hearer = some engine) :
    ∃ early bytes late, journal = early ++ .received bytes :: late ∧
      (Journal.turn early).holder = engine ∧ ∀ others, .received others ∉ late := by
  induction journal using List.reverseRecOn with
  | nil => cases heard
  | append_singleton front last ih =>
    rw [turn_concat] at heard
    cases last with
    | received bytes =>
      exact ⟨front, bytes, [], rfl, Option.some.inj heard, fun _ => List.not_mem_nil⟩
    | sent | reported | noted | queued | answered | handedOver | handedBack | waitEnded =>
      obtain ⟨early, bytes, late, rfl, holder, none⟩ := ih heard
      exact ⟨early, bytes, late ++ [_], List.append_assoc _ _ _, holder, by simpa using none⟩

/-- The console has the port after entries only if it had it before or was given it. -/
theorem handedOver_mem {late : List Effect}
    (console : (Journal.turn (journal ++ late)).holder = .console)
    (link : (Journal.turn journal).holder = .link) : ∃ goal, .handedOver goal ∈ late := by
  induction late using List.reverseRecOn with
  | nil => simp [link] at console
  | append_singleton front last ih =>
    rw [← List.append_assoc, turn_concat] at console
    cases last with
    | handedOver goal => exact ⟨goal, by simp⟩
    | handedBack => cases console
    | received | sent | reported | noted | queued | answered | waitEnded =>
      obtain ⟨goal, member⟩ := ih console
      exact ⟨goal, List.mem_append_left _ member⟩

end Journal

namespace Host

variable {hearer : Option Engine} {host host' : Host}

/-- The journal accounts for who has the port, and every write was in turn. -/
def InTurn (hearer : Option Engine) (host : Host) : Prop :=
  Journal.InTurn { holder := host.active, hearer } host.world.journal

/-- What belongs to the engine that has the port is in turn. -/
theorem InTurn.adds (inTurn : InTurn hearer host) (active : host'.active = host.active)
    (adds : World.Adds (Effect.BelongsTo host.active) host.world host'.world) :
    InTurn hearer host' := by
  obtain ⟨added, journal, each⟩ := adds
  rw [InTurn, active, journal]
  exact Journal.InTurn.append inTurn each

theorem InTurn.concat (inTurn : InTurn hearer host) {entry : Effect} {turn : Turn}
    (admits : Turn.Admits { holder := host.active, hearer } entry)
    (after : Turn.after { holder := host.active, hearer } entry = turn) :
    Journal.InTurn turn (host.record entry).world.journal := by
  subst after
  exact Journal.InTurn.concat inTurn admits

theorem InTurn.setMode (inTurn : InTurn hearer host) (mode : Mode) :
    InTurn hearer (host.setMode mode) := by
  exact inTurn.adds (host.active_setMode mode) (adds_setMode host mode fun _ _ => trivial)

theorem InTurn.endWait (inTurn : InTurn hearer host) : InTurn hearer host.endWait :=
  inTurn.adds rfl ((World.Adds.refl _).record trivial)

theorem InTurn.enter (inTurn : InTurn hearer host) (goal : MenuEntry) :
    InTurn hearer (host.enterBootloader goal) := by
  have turned : InTurn hearer (host.turned goal) := inTurn.endWait.concat trivial rfl
  rw [enterBootloader_eq]
  dsimp only
  split
  · exact turned.setMode _
  · exact turned

theorem InTurn.reset (inTurn : InTurn hearer host) (active : host.active = .link) :
    InTurn hearer host.sendReset.2 := by
  rcases host.sendReset_cases with ⟨-, same⟩ | ⟨-, same⟩
  · rw [same]
    exact inTurn
  · rw [same]
    exact inTurn.adds rfl
      (host.link.adds_reset host.world (fun _ => active.symm) fun _ _ => trivial)

theorem InTurn.send {command : Ezsp.Command} {later : List Ezsp.Command}
    (inTurn : InTurn hearer host) (can : host.CanSend) (oldest : host.queue = command :: later) :
    InTurn hearer { host with waiting := false }.sendNext.2 := by
  rw [sendNext_of_can host can oldest]
  exact inTurn.adds rfl
    (host.link.adds_send host.world _ (fun _ => can.active.symm) fun _ _ => trivial)

/-- Every move is in turn. -/
theorem Move.inTurn (move : Move hearer host host') (inTurn : InTurn hearer host) :
    InTurn hearer host' := by
  cases move with
  | force | port | fireLink | fireConsole | launch | launched | settle | rewind | hold =>
    exact inTurn
  | remark effect isRemark =>
    refine inTurn.adds rfl ((World.Adds.refl _).record ?_)
    cases effect with
    | noted | reported => trivial
    | received | sent | queued | answered | handedOver | handedBack | waitEnded =>
      exact isRemark.elim
  | mode mode => exact inTurn.setMode mode
  | enqueue command opened unsent => exact inTurn.adds rfl ((World.Adds.refl _).record trivial)
  | send command later can oldest => exact inTurn.send can oldest
  | answer response command later inFlight oldest matching =>
    exact inTurn.adds rfl
      ((((World.Adds.refl _).record trivial).record trivial).record trivial)
  | read bytes active =>
    exact inTurn.adds rfl (host.link.adds_receive host.world bytes (fun _ _ => trivial) trivial)
  | acknowledge opened heard => exact inTurn.concat (.inr ⟨⟨_, rfl⟩, heard⟩) rfl
  | pollLink => exact inTurn.adds rfl (host.link.adds_poll host.world fun _ _ => trivial)
  | reset opened active => exact inTurn.reset active
  | enter goal => exact inTurn.enter goal
  | readConsole bytes active =>
    exact inTurn.adds rfl ((World.Adds.refl _).notes _ fun _ _ => trivial)
  | pollConsole opened active =>
    exact inTurn.adds rfl (host.console.adds_poll host.world fun _ => active.symm)
  | choose entry opened active =>
    exact inTurn.adds rfl
      (host.console.adds_choose host.world entry (fun _ => active.symm) fun _ _ => trivial)
  | handBack | take => exact inTurn.concat trivial rfl
  | close => exact inTurn.endWait.concat trivial rfl

theorem inTurn_run (settings : Settings) (port : Port) (now : Nat) (history : List Operation) :
    ∃ hearer, InTurn hearer ((ofSettings settings { port, now }).run history) :=
  run_of_moves (P := InTurn) (fun _ _ _ move inTurn => move.inTurn inTurn)
    (fun _ _ _ inTurn => inTurn.concat trivial rfl) none ⟨rfl, .nil⟩ history

/-- The engine that the host counts as active is the one that was given the port last,
and nothing else writes to it, whatever happens; but for acknowledgements of bytes that
came for the link, which go out even if the port was handed over while these bytes were
handled. -/
theorem writes_in_turn (settings : Settings) (port : Port) (now : Nat)
    (history : List Operation) :
    let host := (ofSettings settings { port, now }).run history
    let holder journal := (Journal.turn journal).holder
    holder host.world.journal = host.active ∧
    ∀ before what outcome after, host.world.journal = before ++ .sent what outcome :: after →
      what.engine = holder before ∨
      ∃ number early bytes late goal, what = .frame (.ack number) ∧
        before = early ++ .received bytes :: late ∧ holder early = .link ∧
        .handedOver goal ∈ late ∧ ∀ others, .received others ∉ late := by
  intro host holder
  obtain ⟨hearer, inTurn⟩ := inTurn_run settings port now history
  refine ⟨congrArg Turn.holder inTurn.turn, ?_⟩
  intro before what outcome after split
  have admitted : (Journal.turn before).Admits (.sent what outcome) :=
    inTurn.lawful before (.sent what outcome) after split
  rcases admitted with own | ⟨⟨number, rfl⟩, heard⟩
  · exact .inl own
  · cases console : (Journal.turn before).holder with
    | link => exact .inl console.symm
    | console =>
      obtain ⟨early, bytes, late, rfl, link, last⟩ := Journal.split_hearer heard
      have console : (Journal.turn (early ++ [.received bytes] ++ late)).holder = .console := by
        simpa using console
      have link' : (Journal.turn (early ++ [.received bytes])).holder = .link := by
        rw [Journal.turn_concat]
        exact link
      obtain ⟨goal, member⟩ := Journal.handedOver_mem console link'
      exact .inr ⟨number, early, bytes, late, goal, rfl, rfl, link, member, last⟩

/-- The response to the launch and a message behind it come in one piece: the message
is acknowledged when the console has the port. -/
theorem acknowledgement_after_hand_over :
    ¬ ∀ (history : List Operation) (before after : List Effect) (what : Transmission)
        (outcome : WriteOutcome),
      ((ofSettings {} { port := { name := "line" } }).run history).world.journal =
          before ++ .sent what outcome :: after →
        what.engine = (Journal.turn before).holder := by
  intro always
  let launched := Wire.Frame.data 0 1 false [0x00, 0x80, 0xFF, 0x00, Ezsp.launchBootloader, 0x00]
  let message := Wire.Frame.data 1 1 false [0x00, 0x80, 0xFF, 0x00, 0x05]
  let history : List Operation := [.openPort, .receive (Wire.Frame.resetAck .powerOn).wire,
    .switchMode .upgrading, .receive (launched.wire ++ message.wire)]
  let journal := ((ofSettings {} { port := { name := "line" } }).run history).world.journal
  have split : journal = journal.take 22 ++
      .sent (.frame (.ack 2)) (.accepted 4) :: journal.drop 23 := by
    decide +kernel
  have own := always history _ _ _ _ split
  revert own
  decide +kernel

end Host
end NcpHost
