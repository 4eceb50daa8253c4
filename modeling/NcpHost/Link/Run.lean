import NcpHost.Link.Basic

/-! Histories of a link: the operations of its owner, the bytes that arrive, the
passing of time, and whatever happens to the port. -/
namespace NcpHost

/-- What happens to a port from outside. -/
inductive PortChange where
  | unplug
  | plug
  | arrival (chunk : List UInt8)
  | writeFaults (faults : List Fault)
  | readFaults (faults : List Fault)
  deriving DecidableEq, Repr

def Port.change (port : Port) : PortChange → Port
  | .unplug => { port with plugged := false }
  | .plug => { port with plugged := true }
  | .arrival chunk => port.deliver chunk
  | .writeFaults faults => { port with writeFaults := faults }
  | .readFaults faults => { port with readFaults := faults }

def World.change (world : World) (change : PortChange) : World :=
  { world with port := world.port.change change }

namespace Link

inductive Operation where
  | reset
  | acknowledge
  | send (payload : List UInt8)
  | endWait
  | prepareResend
  | receive (bytes : List UInt8)
  | fire
  | poll
  | port (change : PortChange)
  deriving DecidableEq, Repr

inductive Answer where
  | done
  | result (outcome : Option PortError)
  | events (events : List LinkEvent)
  | flag (value : Bool)
  | event (event : Option LinkEvent)
  deriving DecidableEq, Repr

/-- The error of a failed operation. -/
def failure? {ε α : Type} : Except ε α → Option ε
  | .ok _ => none
  | .error error => some error

def apply (link : Link) (world : World) : Operation → Answer × Link × World
  | .reset =>
    let (result, link, world) := link.reset world
    (.result (failure? result), link, world)
  | .acknowledge =>
    let (result, link, world) := link.acknowledge world
    (.result (failure? result), link, world)
  | .send payload =>
    let (result, link, world) := link.send world payload
    (.result (failure? result), link, world)
  | .endWait => (.done, link.endWait world)
  | .prepareResend => (.done, link.prepareResend, world)
  | .receive bytes =>
    let (events, link, world) := link.receive world bytes
    (.events events, link, world)
  | .fire => (.flag link.timer.running, { link with timer := link.timer.fire }, world)
  | .poll =>
    let (event, link, world) := link.poll world
    (.event event, link, world)
  | .port change => (.done, link, world.change change)

/-- The state that a history leaves. -/
def run (link : Link) (world : World) (history : List Operation) : Link × World :=
  history.foldl (fun state operation => (state.1.apply state.2 operation).2) (link, world)

end Link
end NcpHost
