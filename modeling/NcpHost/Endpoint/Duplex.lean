import NcpHost.Endpoint.Receive

/-! Two endpoints joined by a reliable line in each direction. A side builds
frames, whose bytes join what is on its way to the other side, and takes bytes
that have reached it whenever and in whatever pieces it likes. What a side has
built, taken and signalled stays on record. -/
namespace NcpHost

namespace Wire.Frame

def payload? : Frame → Option (List UInt8)
  | .data _ _ _ payload => some payload
  | _ => none

def ackNumber? : Frame → Option UInt8
  | .ack number => some number
  | _ => none

/-- What the DATA frames among `frames` carry. -/
def payloads (frames : List Frame) : List (List UInt8) := frames.filterMap payload?

/-- The numbers of the ACK frames among `frames`. -/
def ackNumbers (frames : List Frame) : List UInt8 := frames.filterMap ackNumber?

/-- The bytes of a stream of frames. -/
def stream (frames : List Frame) : List UInt8 := frames.flatMap wire

/-- The frames of a stream whose last byte is among its first `count` bytes. -/
def arrived (count : Nat) : List Frame → List Frame
  | [] => []
  | frame :: later =>
    if frame.wire.length ≤ count then frame :: arrived (count - frame.wire.length) later else []

end Wire.Frame

namespace Signal

def payload? : Signal → Option (List UInt8)
  | .payload data => some data
  | _ => none

def ackNumber? : Signal → Option UInt8
  | .ackObserved number => some number
  | _ => none

end Signal

inductive Side where
  | near
  | far
  deriving DecidableEq, Repr

def Side.other : Side → Side
  | .near => .far
  | .far => .near

/-- What stands at one end of the line. -/
structure Party where
  endpoint : Endpoint := {}
  /-- Bytes that the other side has sent and this side has not taken. -/
  incoming : List UInt8 := []
  built : List Wire.Frame := []
  /-- How many bytes this side has taken. -/
  taken : Nat := 0
  signals : List Signal := []
  deriving DecidableEq, Repr

namespace Party

def put (party : Party) (built : Wire.Frame × Endpoint) : Party :=
  { party with endpoint := built.2, built := party.built ++ [built.1] }

/-- Reads `chunk`, after which `rest` is left on the line. -/
def take (party : Party) (chunk rest : List UInt8) : Party :=
  let intake := party.endpoint.receive chunk
  { party with
    endpoint := intake.endpoint
    incoming := rest
    taken := party.taken + chunk.length
    signals := party.signals ++ intake.signals }

end Party

abbrev Duplex := Side → Party

namespace Duplex

inductive Action where
  | data (payload : { bytes : List UInt8 // bytes.length ≤ maxPayload })
  | ack
  /-- Takes the first `count` bytes that wait, or all if there are fewer. -/
  | take (count : Nat)

/-- The payload that `side` sends by an action of `doer`. -/
def Action.payloadOf? (side doer : Side) : Action → Option (List UInt8)
  | .data payload => if doer = side then some payload else none
  | _ => none

def start : Duplex := fun _ => {}

/-- `side` puts a frame on the line. -/
def send (duplex : Duplex) (side : Side) (built : Wire.Frame × Endpoint) : Duplex := fun each =>
  if each = side then (duplex each).put built
  else { duplex each with incoming := (duplex each).incoming ++ built.1.wire }

def act (duplex : Duplex) (side : Side) : Action → Duplex
  | .data payload => duplex.send side ((duplex side).endpoint.data payload)
  | .ack => duplex.send side (duplex side).endpoint.ack
  | .take count => fun each =>
    if each = side then
      (duplex each).take ((duplex each).incoming.take count) ((duplex each).incoming.drop count)
    else duplex each

/-- The state that a history of actions leaves. -/
def run (history : List (Side × Action)) : Duplex :=
  history.foldl (fun duplex step => duplex.act step.1 step.2) start

end Duplex
end NcpHost
