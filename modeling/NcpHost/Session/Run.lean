import NcpHost.Host.Run
import NcpHost.Session.Connection

/-! A user's session: connections come and go on one port while the clock runs
on. -/
namespace NcpHost

/-- The port of a session, with or without a connection on it. -/
inductive Line where
  | idle (world : World) (clock : Clock)
  | attached (connection : Connection)

namespace Line

def world : Line → World
  | .idle world _ => world
  | .attached connection => connection.host.world

def clock : Line → Clock
  | .idle _ clock => clock
  | .attached connection => connection.clock

/-- The same connection, if there is one, in another world at another time. -/
def move (world : World) (clock : Clock) : Line → Line
  | .idle .. => .idle world clock
  | .attached connection => .attached { connection with host.world := world, clock }

def connection? : Line → Option Connection
  | .idle .. => none
  | .attached connection => some connection

end Line

structure Session where
  settings : Settings
  devices : Devices := {}
  line : Line

namespace Session

inductive Operation where
  | port (change : PortChange)
  | attach
  | connect
  | sleep (ms : Nat)
  | close
  | pump
  | waitReady (ms : Nat)
  /-- Takes the first event of that kind. -/
  | waitFor (kind : Event.Kind) (ms : Nat)
  | queryVersion (ms : Nat)
  | enterUpgrade (ms : Nat)
  | submit (id : UInt8) (parameters : List UInt8)
  | switchMode (requested : Mode)
  | closePort
  | portInfo
  deriving DecidableEq, Repr

/-- What the session says of its port. -/
structure PortInfo where
  name : String
  plugged : Bool
  deriving DecidableEq, Repr

inductive Answer where
  | done
  | noConnection
  | failed (error : SessionError)
  | version (text : Option String)
  | event (event : Event)
  | stack (version : Ezsp.StackVersion)
  | flag (value : Bool)
  | portInfo (info : Option PortInfo)
  deriving DecidableEq, Repr

def answerOf {α : Type} (answer : α → Answer) : Except SessionError α → Answer
  | .ok value => answer value
  | .error error => .failed error

/-- Operations on a connection; `none` for those that work without. -/
def onConnection? (connection : Connection) : Operation → Option (Answer × Line)
  | .close =>
    let (held, world, clock) := connection.close
    some (.flag held, .idle world clock)
  | .pump =>
    let (result, connection) := connection.pump
    some (answerOf (fun _ => .done) result, .attached connection)
  | .waitReady ms =>
    let (result, connection) := connection.waitReady (nanoseconds ms)
    some (answerOf .version result, .attached connection)
  | .waitFor kind ms =>
    let pick (memory : Unit) (event : Event) : Unit × Option Event :=
      (memory, if event.kind = kind then some event else none)
    let (result, _, connection) := connection.waitFor pick () (nanoseconds ms)
    some (answerOf .event result, .attached connection)
  | .queryVersion ms =>
    let (result, connection) := connection.queryVersion (nanoseconds ms)
    some (answerOf .stack result, .attached connection)
  | .enterUpgrade ms =>
    let (result, connection) := connection.enterUpgrade (nanoseconds ms)
    some (answerOf .version result, .attached connection)
  | .submit id parameters =>
    let (result, connection) := connection.call (·.submit id parameters)
    some (answerOf (fun _ => .done) result, .attached connection)
  | .switchMode requested =>
    let (result, connection) := connection.call (·.switchMode requested)
    some (answerOf (fun _ => .done) result, .attached connection)
  | .closePort =>
    let (held, connection) := connection.tick.perform Host.closePort
    some (.flag held, .attached connection)
  | .portInfo =>
    let port := connection.host.world.port
    some (.portInfo (if connection.host.opened then some ⟨port.name, port.plugged⟩ else none),
      .attached connection)
  | .port _ | .attach | .connect | .sleep _ => none

def apply (session : Session) (operation : Operation) : Answer × Session :=
  let line := session.line
  match operation with
  | .port change =>
    (.done, { session with line := line.move (line.world.change change) line.clock })
  | .sleep ms => (.done, { session with line := line.move line.world (line.clock.sleep ms) })
  | .attach =>
    match Connection.attach session.settings line.world line.clock with
    | (.ok connection, _, _) => (.done, { session with line := .attached connection })
    | (.error error, world, clock) =>
      (.failed error, { session with line := line.move world clock })
  | .connect =>
    match Connection.connect session.settings session.devices line.clock with
    | (.ok connection, _) => (.done, { session with line := .attached connection })
    | (.error error, clock) => (.failed error, { session with line := line.move line.world clock })
  | operation =>
    match line.connection? with
    | none => (if operation = .close then .done else .noConnection, session)
    | some connection =>
      match onConnection? connection operation with
      | none => (.done, session)
      | some (answer, line) => (answer, { session with line })

end Session
end NcpHost
