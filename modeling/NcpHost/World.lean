import NcpHost.Ezsp.Command
import NcpHost.Note
import NcpHost.Wire.Frame

/-! What surrounds the protocol engines: the port, the time, and a journal of
everything done, in order. Bytes reach the port through `World.transmit` alone,
so the journal shows every attempt with its outcome. -/
namespace NcpHost

/-- The entries of the bootloader's menu that the host chooses. -/
inductive MenuEntry where
  | upload
  | run
  deriving DecidableEq, Repr

/-- The mode of a host that is about to choose the entry, or has chosen it. -/
def MenuEntry.mode : MenuEntry → Mode
  | .upload => .upgrading
  | .run => .leaving

/-- What the host puts on the line. -/
inductive Transmission where
  | frame (content : Wire.Frame)
  /-- Makes the bootloader print its menu. -/
  | probe
  | choice (entry : MenuEntry)
  deriving DecidableEq, Repr

def Transmission.bytes : Transmission → List UInt8
  | .frame content => content.wire
  | .probe => [0x0A]
  | .choice .upload => [0x31]
  | .choice .run => [0x32]

inductive Effect where
  /-- Handed to the port; the port tells how many bytes it accepted. -/
  | sent (what : Transmission) (outcome : WriteOutcome)
  /-- Arrived for the engine that has the port. -/
  | received (data : List UInt8)
  | reported (event : Event)
  | noted (note : Note)
  /-- A command joined the queue. -/
  | queued (command : Ezsp.Command)
  /-- A command left the queue with its response. -/
  | answered (command : Ezsp.Command) (response : Ezsp.Frame)
  /-- The bootloader's console took over the port, to choose an entry. -/
  | handedOver (goal : MenuEntry)
  /-- The port is the link's again. -/
  | handedBack
  /-- The link stopped waiting for an acknowledgement. -/
  | waitEnded
  deriving DecidableEq, Repr

namespace Effect

def event? : Effect → Option Event
  | .reported event => some event
  | _ => none

def note? : Effect → Option Note
  | .noted note => some note
  | _ => none

/-- What the port was handed. -/
def transmission? : Effect → Option Transmission
  | .sent what _ => some what
  | _ => none

/-- What the port accepted in full. -/
def delivered? : Effect → Option Transmission
  | .sent what outcome =>
    if (outcome.complete what.bytes.length).isOk then some what else none
  | _ => none

end Effect

structure World where
  port : Port
  /-- The last reading of the clock, in microseconds. -/
  now : Nat := 0
  journal : List Effect := []
  deriving DecidableEq, Repr

namespace World

def record (world : World) (effect : Effect) : World :=
  { world with journal := world.journal ++ [effect] }

def note (world : World) (note : Note) : World :=
  world.record (.noted note)

def notes (world : World) (notes : List Note) : World :=
  { world with journal := world.journal ++ notes.map .noted }

def report (world : World) (event : Event) : World :=
  world.record (.reported event)

/-- Hands bytes to the port; done only if all were accepted. -/
def transmit (world : World) (what : Transmission) : Except PortError Unit × World :=
  let (outcome, port) := world.port.write what.bytes
  (outcome.complete what.bytes.length, { world with port }.record (.sent what outcome))

/-- A world with nothing done yet at the same port. -/
def fresh (world : World) : World :=
  { world with port.accepted := [], journal := [] }

def events (world : World) : List Event :=
  world.journal.filterMap Effect.event?

@[simp] theorem journal_record (world : World) (effect : Effect) :
    (world.record effect).journal = world.journal ++ [effect] := rfl

@[simp] theorem now_notes (world : World) (notes : List Note) :
    (world.notes notes).now = world.now := rfl

/-- Every attempt to write is in the journal, whatever came of it. -/
@[simp] theorem journal_transmit (world : World) (what : Transmission) :
    (world.transmit what).2.journal =
      world.journal ++ [.sent what (world.port.write what.bytes).1] := rfl

end World
end NcpHost
