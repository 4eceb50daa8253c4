import NcpHost.Ezsp.StackVersion
import NcpHost.Host.Exchange
import NcpHost.Session.Clock

/-! The host loop: read the port, feed the host, let its timers run out, and
wait for an event with a time limit. Reported events queue up until a wait takes
them; packets go to the user's observer only. -/
namespace NcpHost

inductive SessionError where
  | host (error : HostError)
  | port (error : PortError)
  | command (error : Ezsp.FrameError)
  | noPort
  | portClosed
  | adapterSilent
  | timeout (ms : Nat) (mode : Mode) (stage : Bootloader.Stage)
  deriving DecidableEq, Repr

def SessionError.message : SessionError → String
  | .host error => error.message
  | .port error => error.message
  | .command error => error.message
  | .noPort => "No serial port configured"
  | .portClosed => "Serial port closed"
  | .adapterSilent => "Adapter not responding"
  | .timeout ms mode stage => s!"Timeout after {ms}ms (mode {mode.text}, stage {stage.text})"

/-- The most bytes asked of the port in one read. -/
def maxRead : Nat := 256

/-- The most bytes that a packet event shows. -/
def maxPreview : Nat := 32

def Event.ofBytes (direction : Direction) (data : List UInt8) : Event :=
  .packet direction data.length (data.take maxPreview)

/-- What the user's observer sees of an effect: packets for the bytes that the
port took or gave, and whatever the host reports. -/
def Effect.observed : Effect → List Event
  | .sent what (.accepted count) => [.ofBytes .sent (what.bytes.take count)]
  | .received data => [.ofBytes .received data]
  | .reported event => [event]
  | _ => []

/-- What the observer has seen, oldest first. -/
def World.observed (world : World) : List Event :=
  world.journal.flatMap Effect.observed

structure Connection where
  host : Host
  clock : Clock
  /-- Reported events that no wait has taken. -/
  pending : List Event := []
  pollIntervalMs : Nat

namespace Connection

/-- Lets the host act at the clock's time; what it reports queues up. -/
def perform {α : Type} (connection : Connection) (action : Host → α × Host) :
    α × Connection :=
  let world := connection.host.world
  let (result, host) :=
    action { connection.host with
      world := { world with now := connection.clock.now, journal := [] } }
  (result,
   { connection with
     host := { host with
       world := { host.world with journal := world.journal ++ host.world.journal } }
     pending := connection.pending ++ host.world.events })

def act (connection : Connection) (action : Host → Host) : Connection :=
  (connection.perform fun host => ((), action host)).2

def tick (connection : Connection) : Connection :=
  { connection with clock := connection.clock.read }

/-- Opens `world`'s port and starts the handshake. -/
def attach (settings : Settings) (world : World) (clock : Clock) :
    Except SessionError Connection × World × Clock :=
  let fresh : Connection := {
    host := .ofSettings settings world
    clock := clock.read
    pollIntervalMs := settings.pollIntervalMs.toNat }
  match fresh.perform Host.openPort with
  | (.ok (), connection) =>
    let connection := connection.act (·.note .sessionStarted)
    (.ok connection, connection.host.world, connection.clock)
  | (.error error, connection) =>
    (.error (.host error), connection.host.world, connection.clock)

/-- Finds the port that the settings name, and attaches to it. -/
def connect (settings : Settings) (devices : Devices) (clock : Clock) :
    Except SessionError Connection × Clock :=
  if settings.port.isEmpty then (.error .noPort, clock)
  else
    match devices.find settings.port with
    | .error error => (.error (.port error), clock)
    | .ok port =>
      let (result, _, clock) := attach settings { port } clock
      (result, clock)

/-- Timers whose deadline has come become due. -/
def expireTimers (host : Host) : Host :=
  { host with
    link.timer := host.link.timer.expire host.world.now
    console.timer := host.console.timer.expire host.world.now }

/-- One read of the port. Nothing to read is no failure. -/
def readOnce (connection : Connection) : Except SessionError Unit × Connection :=
  let world := connection.host.world
  let (result, port) := world.port.read maxRead
  let connection := { connection with host.world := { world with port } }
  match result with
  | .ok [] => (.ok (), connection)
  | .ok data => (.ok (), connection.act (·.receive data))
  | .error (.timeout _) => (.ok (), connection)
  | .error error => (.error (.port error), connection)

/-- One read and one look at the timers. -/
def pump (connection : Connection) : Except SessionError Unit × Connection :=
  if connection.host.opened then
    match connection.tick.readOnce with
    | (.ok (), connection) => (.ok (), connection.tick.act fun host => (expireTimers host).poll)
    | failed => failed
  else (.error .portClosed, connection)

@[simp] theorem clock_tick (connection : Connection) :
    connection.tick.clock = connection.clock.read := rfl

theorem clock_readOnce (connection : Connection) :
    connection.readOnce.2.clock = connection.clock := by
  unfold readOnce
  dsimp only
  split <;> rfl

/-- A pump does nothing to the clock but read it. -/
theorem clock_pump (connection : Connection) :
    ∃ n, connection.pump.2.clock = connection.clock.skip n := by
  unfold pump
  split
  · have kept := connection.tick.clock_readOnce
    split
    · next read =>
      rw [read] at kept
      exact ⟨2, congrArg Clock.read kept⟩
    · exact ⟨1, kept⟩
  · exact ⟨0, rfl⟩

/-- How the pending events end a wait. -/
inductive Verdict (ρ : Type) where
  | accepted (result : ρ)
  | silent
  | undecided

/-- Offers events to `pick` until it accepts one. A silent adapter ends the wait
unless `pick` accepts that event; `pick` may remember what it has seen. -/
def offer {σ ρ : Type} (pick : σ → Event → σ × Option ρ) (memory : σ) :
    List Event → Verdict ρ × σ × List Event
  | [] => (.undecided, memory, [])
  | event :: later =>
    match pick memory event with
    | (memory, some result) => (.accepted result, memory, later)
    | (memory, none) =>
      if event = .adapterSilent then (.silent, memory, later) else offer pick memory later

/-- What a round of a wait comes to. -/
inductive Round (σ ρ : Type) where
  | ended (result : Except SessionError ρ) (memory : σ) (connection : Connection)
  | again (memory : σ) (connection : Connection)

/-- Offers the pending events. Unless this settles the wait, or more than `limit`
nanoseconds have passed since `start`, it pumps once. -/
def round {σ ρ : Type} (pick : σ → Event → σ × Option ρ) (start limit : Nat) (memory : σ)
    (connection : Connection) : Round σ ρ :=
  match offer pick memory connection.pending with
  | (.accepted result, memory, pending) => .ended (.ok result) memory { connection with pending }
  | (.silent, memory, pending) =>
    .ended (.error .adapterSilent) memory { connection with pending }
  | (.undecided, memory, pending) =>
    let drained := { connection with pending }.tick
    if 1000 * (drained.clock.now - start) > limit then
      .ended (.error (.timeout (limit / nanoseconds 1) drained.host.mode
        drained.host.console.stage)) memory drained
    else
      match drained.pump with
      | (.error error, later) => .ended (.error error) memory later
      | (.ok (), later) => .again memory later

/-- A round that leads to another one has read the clock before the wait was over. -/
theorem follows_of_again {σ ρ : Type} {pick : σ → Event → σ × Option ρ} {start limit : Nat}
    {memory memory' : σ} {connection later : Connection}
    (again : round pick start limit memory connection = .again memory' later) :
    (⟨later.clock⟩ : Clock.Until (start + limit)).Follows ⟨connection.clock⟩ := by
  unfold round at again
  split at again
  · cases again
  · cases again
  · next pending _ =>
    dsimp only at again
    split at again
    · cases again
    · next early =>
      obtain ⟨n, same⟩ := clock_pump { connection with pending }.tick
      split at again
      · cases again
      · next pumped =>
        cases again
        rw [pumped] at same
        refine ⟨?_, n, ?_⟩
        · have inTime : connection.clock.read.now - start ≤ limit := by
            simp only [clock_tick] at early
            omega
          exact Nat.sub_le_iff_le_add'.mp inTime
        · rw [Nat.add_comm n 1]
          exact same.trans (Clock.skip_skip connection.clock 1 n)

/-- Round after round until one settles the wait. Every round reads the clock, so the rounds
come to an end. -/
def waitFrom {σ ρ : Type} (pick : σ → Event → σ × Option ρ) (start limit : Nat) (memory : σ)
    (connection : Connection) : Except SessionError ρ × σ × Connection :=
  match _turn : round pick start limit memory connection with
  | .ended result memory after => (result, memory, after)
  | .again memory later => waitFrom pick start limit memory later
termination_by (⟨connection.clock⟩ : Clock.Until (start + limit))
decreasing_by exact follows_of_again _turn

/-- Waits for an event at most `limit` nanoseconds. -/
def waitFor {σ ρ : Type} (pick : σ → Event → σ × Option ρ) (memory : σ) (limit : Nat)
    (connection : Connection) : Except SessionError ρ × σ × Connection :=
  let connection := connection.tick
  waitFrom pick connection.clock.now limit memory connection

/-- Waits for the link. Tells the bootloader's version if the adapter had to be
pulled out of the bootloader first. -/
def waitReady (connection : Connection) (limit : Nat) :
    Except SessionError (Option String) × Connection :=
  let pick (seen : Option String) : Event → Option String × Option Unit
    | .promptSeen version => (some (version.getD ""), none)
    | .adapterReady => (seen, some ())
    | _ => (seen, none)
  let (result, seen, connection) := waitFor pick none limit connection
  (result.map fun () => seen, connection)

/-- Calls the host at the present time. -/
def call (connection : Connection) (action : Host → Except HostError Unit × Host) :
    Except SessionError Unit × Connection :=
  let (result, connection) := connection.tick.perform action
  (result.mapError .host, connection)

/-- The parameters of the first response to the version command. -/
def pickVersion (memory : Unit) : Event → Unit × Option (List UInt8)
  | .frameReceived commandId _ parameters =>
    (memory, if commandId = Ezsp.versionCommand then some parameters else none)
  | _ => (memory, none)

/-- Asks for the firmware's version. -/
def queryVersion (connection : Connection) (limit : Nat) :
    Except SessionError Ezsp.StackVersion × Connection :=
  match connection.call (·.submit Ezsp.versionCommand [Ezsp.protocolVersion]) with
  | (.error error, connection) => (.error error, connection)
  | (.ok (), connection) =>
    match waitFor pickVersion () limit connection with
    | (.error error, _, connection) => (.error error, connection)
    | (.ok parameters, _, connection) =>
      match Ezsp.StackVersion.ofParameters parameters with
      | .error error => (.error (.command error), connection)
      | .ok version =>
        (.ok version,
         if version.protocolVersion = Ezsp.protocolVersion then connection
         else connection.act
           (·.note (.otherProtocolVersion Ezsp.protocolVersion version.protocolVersion)))

/-- Brings the adapter into the bootloader and waits for the upload's receiver.
Tells the version that the bootloader printed. -/
def enterUpgrade (connection : Connection) (limit : Nat) :
    Except SessionError (Option String) × Connection :=
  match connection.call (·.switchMode .upgrading) with
  | (.error error, connection) => (.error error, connection)
  | (.ok (), connection) =>
    let pick (seen : Option String) : Event → Option String × Option Unit
      | .promptSeen version => (version, none)
      | .transferReady => (seen, some ())
      | _ => (seen, none)
    let (result, seen, connection) := waitFor pick none limit connection
    (result.map fun () => seen, connection)

/-- Ends the connection; tells whether there was a port to give back. -/
def close (connection : Connection) : Bool × World × Clock :=
  let (held, connection) := connection.tick.perform Host.closePort
  (held, connection.host.world, connection.clock)

end Connection
end NcpHost
