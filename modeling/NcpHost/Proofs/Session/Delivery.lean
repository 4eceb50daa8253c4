import Mathlib.Data.List.Basic
import NcpHost.Host.Run
import NcpHost.Proofs.Host.Reports
import NcpHost.Session.Connection

/-! What becomes of the events that a host reports: each is offered to one wait, or waits to be
offered. Waits take them in the order of the reports and from where the wait before has left
off, whatever has ended that one. -/
namespace NcpHost
namespace Connection

/-- From one connection to the other the host has done what is new in the journal; of the
events it has reported, and of those that had been pending, some have been offered and the
others are pending. -/
def Delivers (connection : Connection) (offered : List Event) (after : Connection) : Prop :=
  ∃ since, after.host.world.journal = connection.host.world.journal ++ since ∧
    offered ++ after.pending = connection.pending ++ since.filterMap Effect.event? ∧
    ∀ effect ∈ since, effect.IsPacketless

variable {connection after last : Connection} {offered more : List Event}

namespace Delivers

theorem of_same (host : after.host.world.journal = connection.host.world.journal)
    (pending : offered ++ after.pending = connection.pending) :
    Delivers connection offered after := by
  refine ⟨[], ?_, ?_, List.forall_mem_nil _⟩
  · rw [host, List.append_nil]
  · rw [pending, List.filterMap_nil, List.append_nil]

theorem refl (connection : Connection) : Delivers connection [] connection := of_same rfl rfl

theorem trans (first : Delivers connection offered after) (second : Delivers after more last) :
    Delivers connection (offered ++ more) last := by
  obtain ⟨front, journal, events, each⟩ := first
  obtain ⟨back, journal', events', each'⟩ := second
  refine ⟨front ++ back, ?_, ?_, ?_⟩
  · rw [journal', journal, List.append_assoc]
  · rw [List.append_assoc, events', ← List.append_assoc, events, List.append_assoc,
      List.filterMap_append]
  · exact fun effect member => (List.mem_append.mp member).elim (each effect) (each' effect)

/-- The host goes on, and nothing is offered meanwhile. -/
theorem next (first : Delivers connection offered after) (second : Delivers after [] last) :
    Delivers connection offered last := by
  have both := first.trans second
  rwa [List.append_nil] at both

theorem taken {rest : List Event} (split : connection.pending = offered ++ rest) :
    Delivers connection offered { connection with pending := rest } :=
  of_same rfl split.symm

/-! What the host does. -/

theorem perform {α : Type} {action : Host → α × Host}
    (packetless : ∀ host, World.Packetless host.world (action host).2.world)
    (connection : Connection) : Delivers connection [] (connection.perform action).2 := by
  let world := connection.host.world
  let start := { connection.host with
    world := { world with now := connection.clock.now, journal := [] } }
  obtain ⟨added, journal, each⟩ := packetless start
  have journal : (action start).2.world.journal = added := journal
  refine ⟨added, ?_, ?_, each⟩
  · exact congrArg (world.journal ++ ·) journal
  · exact congrArg (connection.pending ++ ·.filterMap Effect.event?) journal

theorem act {action : Host → Host}
    (packetless : ∀ host, World.Packetless host.world (action host).world)
    (connection : Connection) : Delivers connection [] (connection.act action) := by
  let performed (host : Host) : Unit × Host := ((), action host)
  have quiet (host : Host) : World.Packetless host.world (performed host).2.world :=
    packetless host
  exact perform quiet connection

theorem tick (connection : Connection) : Delivers connection [] connection.tick := of_same rfl rfl

theorem readOnce (connection : Connection) : Delivers connection [] connection.readOnce.2 := by
  have read (port : Port) :
      Delivers connection [] { connection with host.world.port := port } := of_same rfl rfl
  unfold Connection.readOnce
  dsimp only
  split
  · exact read _
  · next data _ _ =>
    exact (read _).trans (act (fun host => host.packetless_step (.receive data)) _)
  · exact read _
  · exact read _

theorem pump (connection : Connection) : Delivers connection [] connection.pump.2 := by
  unfold Connection.pump
  split
  · have read := (tick connection).trans (readOnce connection.tick)
    split
    · next later done =>
      rw [done] at read
      exact (read.trans (tick _)).trans
        (act (fun host => (expireTimers host).packetless_step .poll) _)
    · exact read
  · exact refl connection

theorem call {action : Host → Except HostError Unit × Host}
    (packetless : ∀ host, World.Packetless host.world (action host).2.world)
    (connection : Connection) : Delivers connection [] (connection.call action).2 :=
  (tick connection).trans (perform packetless _)

end Delivers

/-! What a wait is offered. -/

/-- `pick`, with a record of what it has been offered. -/
def noting {σ ρ : Type} (pick : σ → Event → σ × Option ρ) (memory : σ × List Event)
    (event : Event) : (σ × List Event) × Option ρ :=
  (((pick memory.1 event).1, memory.2 ++ [event]), (pick memory.1 event).2)

section Waits

variable {σ ρ : Type} (pick : σ → Event → σ × Option ρ)

/-- Pending events are offered from the oldest on, each once, and the others stay. -/
theorem offer_noting {memory memory' : σ} {pending rest : List Event} {verdict : Verdict ρ}
    (offers : offer pick memory pending = (verdict, memory', rest)) (noted : List Event) :
    ∃ offered, pending = offered ++ rest ∧
      offer (noting pick) (memory, noted) pending =
        (verdict, (memory', noted ++ offered), rest) := by
  induction pending generalizing memory noted with
  | nil =>
    cases offers
    exact ⟨[], rfl, by rw [List.append_nil]; rfl⟩
  | cons event later ih =>
    rcases told : pick memory event with ⟨next, _ | result⟩
    · by_cases silent : event = .adapterSilent
      · simp only [offer, told, if_pos silent] at offers
        cases offers
        exact ⟨[event], rfl, by simp only [offer, noting, told, if_pos silent]⟩
      · simp only [offer, told, if_neg silent] at offers
        obtain ⟨offered, split, same⟩ := ih offers (noted ++ [event])
        refine ⟨event :: offered, congrArg (event :: ·) split, ?_⟩
        simp only [offer, noting, told, if_neg silent]
        rw [same, List.append_assoc]
        rfl
    · simp only [offer, told] at offers
      cases offers
      exact ⟨[event], rfl, by simp only [offer, noting, told]⟩

/-- The connection that a round leaves. -/
def Round.leaves : Round σ ρ → Connection
  | .ended _ _ connection | .again _ connection => connection

/-- The same round, with notes beside what `pick` remembers. -/
def Round.withNotes (notes : List Event) : Round σ ρ → Round (σ × List Event) ρ
  | .ended result memory connection => .ended result (memory, notes) connection
  | .again memory connection => .again (memory, notes) connection

/-- A round takes from the pending events and notes what it takes; then it may pump. -/
theorem round_noting (start limit : Nat) (memory : σ) (noted : List Event)
    (connection : Connection) :
    let turn := round pick start limit memory connection
    ∃ offered, Delivers connection offered turn.leaves ∧
      round (noting pick) start limit (memory, noted) connection =
        turn.withNotes (noted ++ offered) := by
  rcases offers : offer pick memory connection.pending with ⟨verdict, memory', pending⟩
  obtain ⟨offered, split, same⟩ := offer_noting pick offers noted
  have taken := Delivers.taken split
  refine ⟨offered, ?_⟩
  unfold round
  rw [offers, same]
  cases verdict with
  | accepted result => exact ⟨taken, rfl⟩
  | silent => exact ⟨taken, rfl⟩
  | undecided =>
    let drained := { connection with pending }.tick
    have drains : Delivers connection offered drained := taken.next (.tick _)
    dsimp only
    split
    · exact ⟨drains, rfl⟩
    · have pumps := drains.next (.pump drained)
      rcases pumped : drained.pump with ⟨_ | _, later⟩
      all_goals
        rw [pumped] at pumps
        exact ⟨pumps, rfl⟩

variable {pick} {start limit : Nat} {memory memory' : σ}

theorem waitFrom_of_ended {result : Except SessionError ρ}
    (turn : round pick start limit memory connection = .ended result memory' last) :
    waitFrom pick start limit memory connection = (result, memory', last) := by
  unfold waitFrom
  split
  · next same =>
    cases turn.symm.trans same
    rfl
  · next same => cases turn.symm.trans same

theorem waitFrom_of_again
    (turn : round pick start limit memory connection = .again memory' last) :
    waitFrom pick start limit memory connection = waitFrom pick start limit memory' last := by
  rw [waitFrom]
  split
  · next same => cases turn.symm.trans same
  · next same =>
    cases turn.symm.trans same
    rfl

variable (pick) in
/-- However a wait ends, what it was not offered is still pending. -/
theorem waitFrom_noting (start limit : Nat) (memory : σ)
    (noted : List Event) (connection : Connection) :
    let (result, memory', after) := waitFrom pick start limit memory connection
    ∃ offered, Delivers connection offered after ∧
      waitFrom (noting pick) start limit (memory, noted) connection =
        (result, (memory', noted ++ offered), after) := by
  -- Round by round: each one delivers, and the notes go on from those of the one before.
  fun_induction waitFrom pick start limit memory connection generalizing noted with
  | case1 memory connection result memory' after turn =>
    obtain ⟨offered, delivers, same⟩ := round_noting pick start limit memory noted connection
    rw [turn] at delivers same
    exact ⟨offered, delivers, waitFrom_of_ended same⟩
  | case2 memory connection memory' later turn ih =>
    obtain ⟨offered, delivers, same⟩ := round_noting pick start limit memory noted connection
    rw [turn] at delivers same
    obtain ⟨more, delivers', rest⟩ := ih (noted ++ offered)
    refine ⟨offered ++ more, delivers.trans delivers', ?_⟩
    rw [waitFrom_of_again same, rest, List.append_assoc]

/-- A wait that is over within so many rounds. -/
def waitWithin (pick : σ → Event → σ × Option ρ) (start limit : Nat) :
    Nat → σ → Connection → Option (Except SessionError ρ × σ × Connection)
  | 0, _, _ => none
  | rounds + 1, memory, connection =>
    match round pick start limit memory connection with
    | .ended result memory last => some (result, memory, last)
    | .again memory later => waitWithin pick start limit rounds memory later

theorem waitFrom_of_within {rounds : Nat} {ended : Except SessionError ρ × σ × Connection}
    (within : waitWithin pick start limit rounds memory connection = some ended) :
    waitFrom pick start limit memory connection = ended := by
  induction rounds generalizing memory connection with
  | zero => cases within
  | succ rounds ih =>
    rw [waitWithin] at within
    split at within
    · next turn =>
      cases within
      exact waitFrom_of_ended turn
    · next turn =>
      rw [waitFrom_of_again turn]
      exact ih within

end Waits

/-! A session. -/

/-- What the user calls on a connection, and what happens to the port between two calls. -/
inductive Call : Type 1
  | pump
  | wait {σ ρ : Type} (pick : σ → Event → σ × Option ρ) (memory : σ) (limit : Nat)
  | submit (id : UInt8) (parameters : List UInt8)
  | switchMode (requested : Mode)
  | closePort
  | sleep (ms : Nat)
  | port (change : PortChange)

/-- The connection that a call leaves, whatever the call has come to. -/
def step (connection : Connection) : Call → Connection
  | .pump => connection.pump.2
  | .wait pick memory limit => (waitFor pick memory limit connection).2.2
  | .submit id parameters => (connection.call (·.submit id parameters)).2
  | .switchMode requested => (connection.call (·.switchMode requested)).2
  | .closePort => (connection.tick.perform Host.closePort).2
  | .sleep ms => { connection with clock := connection.clock.sleep ms }
  | .port change => { connection with host.world := connection.host.world.change change }

/-- The events that a call offers to its `pick`. A wait that takes notes goes as it goes
without, by `waitFrom_noting`. -/
def offeredBy (connection : Connection) : Call → List Event
  | .wait pick memory limit => (waitFor (noting pick) (memory, []) limit connection).2.1.2
  | .pump | .submit .. | .switchMode _ | .closePort | .sleep _ | .port _ => []

/-- The connection that calls leave. -/
def run (connection : Connection) (calls : List Call) : Connection := calls.foldl step connection

/-- The events that calls offer, in the order of the offers. -/
def offeredOver (connection : Connection) : List Call → List Event
  | [] => []
  | call :: later => connection.offeredBy call ++ (connection.step call).offeredOver later

namespace Delivers

theorem wait {σ ρ : Type} (pick : σ → Event → σ × Option ρ) (memory : σ) (limit : Nat)
    (connection : Connection) :
    Delivers connection (waitFor (noting pick) (memory, []) limit connection).2.1.2
      (waitFor pick memory limit connection).2.2 := by
  obtain ⟨offered, delivers, same⟩ :=
    waitFrom_noting pick connection.tick.clock.now limit memory [] connection.tick
  have both := (tick connection).trans delivers
  rw [waitFor, same]
  exact both

theorem step (connection : Connection) (call : Call) :
    Delivers connection (connection.offeredBy call) (connection.step call) := by
  cases call with
  | pump => exact pump connection
  | wait pick memory limit => exact wait pick memory limit connection
  | submit id parameters =>
    exact Delivers.call (fun host => host.packetless_step (.submit id parameters)) connection
  | switchMode requested =>
    exact Delivers.call (fun host => host.packetless_step (.switchMode requested)) connection
  | closePort =>
    exact (tick connection).trans (perform (fun host => host.packetless_step .closePort) _)
  | sleep | port => exact of_same rfl rfl

theorem run (connection : Connection) (calls : List Call) :
    Delivers connection (connection.offeredOver calls) (connection.run calls) := by
  induction calls generalizing connection with
  | nil => exact refl connection
  | cons first later ih => exact (step connection first).trans (ih _)

end Delivers

theorem delivers_attach {settings : Settings} {world : World} {clock : Clock}
    (attached : (attach settings world clock).1 = .ok connection) :
    ∃ fresh : Connection, fresh.host.world.journal = world.journal ∧ fresh.pending = [] ∧
      Delivers fresh [] connection := by
  let fresh : Connection := {
    host := .ofSettings settings world
    clock := clock.read
    pollIntervalMs := settings.pollIntervalMs.toNat }
  have opens : Delivers fresh [] (fresh.perform Host.openPort).2 :=
    .perform (fun host => host.packetless_step .openPort) fresh
  refine ⟨fresh, rfl, rfl, ?_⟩
  unfold attach at attached
  dsimp only at attached
  split at attached
  · next opened done =>
    rw [done] at opens
    cases attached
    exact opens.trans (.act (fun _ => (World.Adds.refl _).record (.of_none rfl)) _)
  · cases attached

/-- Of what is not a packet, the user's observer sees what the host reports. -/
theorem observed_filter {since : List Effect} (each : ∀ effect ∈ since, effect.IsPacketless) :
    (since.flatMap Effect.observed).filter (!·.isPacket) = since.filterMap Effect.event? := by
  rw [List.filter_flatMap, List.filterMap_eq_flatMap_toList]
  refine List.flatMap_congr fun effect member => ?_
  cases effect with
  | sent what outcome => cases outcome <;> rfl
  | reported event =>
    have other : event.isPacket = false := each _ member event rfl
    simp [Effect.observed, Effect.event?, other]
  | received | noted | queued | answered | handedOver | handedBack | waitEnded => rfl

/-- Over any calls on a connection, after anything that may have come of its port and its
clock: the events that the waits have offered, followed by those that are pending, are the
events that the host has reported since, each once and in their order. The host reports no
packets. The user's observer has seen the same events in the same order, packets apart. -/
theorem events_delivered_once {settings : Settings} {world : World} {clock : Clock}
    (attached : (attach settings world clock).1 = .ok connection) (calls : List Call) :
    let last := connection.run calls
    ∃ since seen, last.host.world.journal = world.journal ++ since ∧
      last.host.world.observed = world.observed ++ seen ∧
      connection.offeredOver calls ++ last.pending = since.filterMap Effect.event? ∧
      (∀ event ∈ since.filterMap Effect.event?, event.isPacket = false) ∧
      seen.filter (!·.isPacket) = connection.offeredOver calls ++ last.pending := by
  intro last
  obtain ⟨fresh, before, empty, begins⟩ := delivers_attach attached
  obtain ⟨since, journal, events, each⟩ := begins.trans (.run connection calls)
  rw [before] at journal
  rw [empty] at events
  refine ⟨since, since.flatMap Effect.observed, journal, ?_, events, ?_, ?_⟩
  · rw [World.observed, journal, List.flatMap_append]
    rfl
  · intro event reported
    obtain ⟨effect, member, told⟩ := List.mem_filterMap.mp reported
    exact each effect member event told
  · rw [observed_filter each]
    exact events.symm

/-- The clock shows the same time throughout the first wait, which takes the first event, and
well into the second, which takes none and runs out of time. -/
theorem events_delivered_once_over_two_waits :
    let world : World :=
      { port := { name := "line", incoming := [(Wire.Frame.resetAck .powerOn).wire] } }
    let clock : Clock := { gap := fun n => n - 7, advances := fun n => ⟨8, by omega⟩ }
    let takeAny (memory : Unit) (event : Event) : Unit × Option Event := (memory, some event)
    let takeNone (memory : Unit) (_ : Event) : Unit × Option Event := (memory, none)
    let calls : List Call := [.wait takeAny () 0, .wait takeNone () 0]
    ∃ connection, (attach {} world clock).1 = .ok connection ∧
      (waitFor takeAny () 0 connection).1 = .ok (.modeChanged .unknown .application) ∧
      (waitFor takeNone () 0 (connection.step (.wait takeAny () 0))).1 =
        .error (.timeout 0 .application .flushing) ∧
      connection.offeredOver calls = [.modeChanged .unknown .application, .adapterReady] ∧
      (connection.run calls).host.world.observed.filter (!·.isPacket) =
        connection.offeredOver calls := by
  intro world clock takeAny takeNone calls
  have ran : ((attach {} world clock).1.toOption.bind fun connection =>
      (waitWithin takeAny connection.tick.clock.now 0 2 () connection.tick).bind fun accepted =>
        (waitWithin takeNone accepted.2.2.tick.clock.now 0 2 () accepted.2.2.tick).map fun late =>
          (accepted.1, late.1, late.2.2.pending,
            late.2.2.host.world.journal.filterMap Effect.event?)) =
      some (.ok (.modeChanged .unknown .application),
        .error (.timeout 0 .application .flushing), [],
        [.modeChanged .unknown .application, .adapterReady]) := by
    decide +kernel
  cases attached : (attach {} world clock).1 with
  | error error =>
    rw [attached] at ran
    cases ran
  | ok connection =>
    rw [attached] at ran
    obtain ⟨_, ⟨⟩, ran⟩ := Option.bind_eq_some_iff.mp ran
    obtain ⟨accepted, taken, ran⟩ := Option.bind_eq_some_iff.mp ran
    obtain ⟨late, ended, shown⟩ := Option.map_eq_some_iff.mp ran
    simp only [Prod.mk.injEq] at shown
    obtain ⟨result, failure, pending, reported⟩ := shown
    have accepts : waitFor takeAny () 0 connection = accepted := waitFrom_of_within taken
    have between : connection.step (.wait takeAny () 0) = accepted.2.2 :=
      congrArg (·.2.2) accepts
    have ends : waitFor takeNone () 0 (connection.step (.wait takeAny () 0)) = late := by
      rw [between]
      exact waitFrom_of_within ended
    have last : connection.run calls = late.2.2 := congrArg (·.2.2) ends
    obtain ⟨since, seen, journal, observed, offered, -, filtered⟩ :=
      events_delivered_once attached calls
    rw [last, pending, List.append_nil] at offered filtered
    rw [last, show world.journal = [] from rfl, List.nil_append] at journal
    rw [← journal, reported] at offered
    refine ⟨connection, rfl, ?_, ?_, offered, ?_⟩
    · rw [accepts]
      exact result
    · rw [ends]
      exact failure
    · rw [observed]
      exact filtered

end Connection
end NcpHost
