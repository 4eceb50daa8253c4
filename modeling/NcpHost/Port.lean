/-! The serial port. Reads take what has arrived, writes record what was
accepted; faults can be scheduled for the calls to come, so that every way in
which a port can fail is a port. -/
namespace NcpHost

inductive PortError where
  | notFound (text : String)
  | openFailed (port text : String)
  | writeFailed (text : String)
  | shortWrite (written expected : Nat)
  | readFailed (text : String)
  | disconnected
  /-- Nothing arrived in time. -/
  | timeout (ms : Nat)
  | io (text : String)
  deriving DecidableEq, Repr

def PortError.message : PortError → String
  | .notFound text => s!"Serial port not found: {text}"
  | .openFailed port text => s!"Failed to open {port}: {text}"
  | .writeFailed text => s!"Write failed: {text}"
  | .shortWrite written expected => s!"Short write: {written} of {expected} bytes"
  | .readFailed text => s!"Read failed: {text}"
  | .disconnected => "Device disconnected"
  | .timeout ms => s!"Timeout after {ms}ms"
  | .io text => s!"IO error: {text}"

/-- What the next call of its kind does. -/
inductive Fault where
  | pass
  /-- At most `limit` bytes pass. -/
  | short (limit : Nat)
  | fail (error : PortError)
  deriving DecidableEq, Repr

/-- How a single write ended. -/
inductive WriteOutcome where
  | accepted (count : Nat)
  | refused (error : PortError)
  deriving DecidableEq, Repr

/-- A write of `expected` bytes counts as done only if all were accepted. -/
def WriteOutcome.complete (expected : Nat) : WriteOutcome → Except PortError Unit
  | .accepted count =>
    if count = expected then .ok () else .error (.shortWrite count expected)
  | .refused error => .error error

structure Port where
  name : String
  /-- The adapter is attached. -/
  plugged : Bool := true
  /-- Chunks that have arrived and not been read. -/
  incoming : List (List UInt8) := []
  /-- Chunks that were accepted, oldest first. -/
  accepted : List (List UInt8) := []
  writeFaults : List Fault := []
  readFaults : List Fault := []
  deriving DecidableEq, Repr

namespace Port

def put (port : Port) (data : List UInt8) : WriteOutcome × Port :=
  if port.plugged then
    (.accepted data.length, { port with accepted := port.accepted ++ [data] })
  else (.refused .disconnected, port)

/-- Takes the oldest chunk; what exceeds `limit` stays for the next call. -/
def take (port : Port) (limit : Nat) : Except PortError (List UInt8) × Port :=
  if port.plugged then
    match port.incoming with
    | [] => (.error (.timeout 0), port)
    | chunk :: later =>
      if chunk.length ≤ limit then (.ok chunk, { port with incoming := later })
      else (.ok (chunk.take limit), { port with incoming := chunk.drop limit :: later })
  else (.error .disconnected, port)

/-- Offers `data` once and tells how many bytes were accepted. -/
def write (port : Port) (data : List UInt8) : WriteOutcome × Port :=
  let later := { port with writeFaults := port.writeFaults.tail }
  match port.writeFaults.head?.getD .pass with
  | .pass => later.put data
  | .short limit => later.put (data.take limit)
  | .fail error => (.refused error, later)

def writeAll (port : Port) (data : List UInt8) : Except PortError Unit × Port :=
  let (outcome, port) := port.write data
  (outcome.complete data.length, port)

def read (port : Port) (limit : Nat) : Except PortError (List UInt8) × Port :=
  let later := { port with readFaults := port.readFaults.tail }
  match port.readFaults.head?.getD .pass with
  | .pass => later.take limit
  | .short bound => later.take (min limit bound)
  | .fail error => (.error error, later)

def deliver (port : Port) (chunk : List UInt8) : Port :=
  { port with incoming := port.incoming ++ [chunk] }

/-- All accepted bytes as they went over the line. -/
def line (port : Port) : List UInt8 := port.accepted.flatten

end Port

/-- The ports that can be opened, by path. -/
structure Devices where
  ports : List (String × Port) := []
  deriving DecidableEq, Repr

def Devices.find (devices : Devices) (path : String) : Except PortError Port :=
  match devices.ports.lookup path with
  | some port => .ok port
  | none => .error (.openFailed path "No such file or directory")

end NcpHost
