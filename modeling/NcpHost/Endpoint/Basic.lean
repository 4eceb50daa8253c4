import NcpHost.Note
import NcpHost.Wire.Frame

/-! One end of the link: its sequence numbers, the frame it is reading, and
what it has counted. It never touches the port or a timer; what its owner has
to know it signals. This module holds the state and the frames it builds. -/
namespace NcpHost

/-- The largest payload a co-processor accepts. -/
def maxPayload : Nat := 128

/-- Control byte, payload and check sequence, every byte stuffed. -/
def maxStuffed : Nat := (1 + maxPayload + 2) * 2

structure Sequence where
  /-- The acknowledgement that the peer owes for our last frame. -/
  expectedAck : UInt8 := 0
  /-- The number of our next DATA frame. -/
  nextFrame : UInt8 := 0
  /-- The number of the peer's next DATA frame, which our frames carry. -/
  ackToSend : UInt8 := 0
  /-- The reset handshake is complete. -/
  connected : Bool := false
  deriving DecidableEq, Repr

/-- What happened on the link since it was set up. -/
structure Tally where
  resetsSent : Nat := 0
  acksSent : Nat := 0
  dataSent : Nat := 0
  dataReceived : Nat := 0
  acksReceived : Nat := 0
  naksReceived : Nat := 0
  /-- DATA frames whose acknowledgement was not the expected one. -/
  ackMismatches : Nat := 0
  checksumErrors : Nat := 0
  /-- Short, unreadably stuffed, garbled and oversized frames. -/
  framingErrors : Nat := 0
  /-- Readable frames that the receiver refuses. -/
  rejected : Nat := 0
  deriving DecidableEq, Repr

def Tally.countError (tally : Tally) : Wire.FrameError → Tally
  | .badChecksum _ => { tally with checksumErrors := tally.checksumErrors + 1 }
  | .tooShort _ | .danglingEscape => { tally with framingErrors := tally.framingErrors + 1 }
  | .unsupportedVersion _ | .rejectedResetCode _ | .peerFault .. | .unknownControl _ =>
    { tally with rejected := tally.rejected + 1 }

inductive Signal where
  /-- The content of a DATA frame, which the owner must acknowledge. -/
  | payload (data : List UInt8)
  /-- Nothing is left to wait for. -/
  | cancelTimer
  | ackObserved (number : UInt8)
  /-- The peer asks for the frames from this number on. -/
  | nakObserved (number : UInt8)
  | connected (code : Wire.ResetCode)
  | ackMismatch (expected received : UInt8)
  | resetReceived
  deriving DecidableEq, Repr

structure Endpoint where
  sequence : Sequence := {}
  /-- The frame in progress, still stuffed. -/
  buffer : List UInt8 := []
  /-- The frame in progress is lost whatever follows. -/
  corrupt : Bool := false
  /-- The next DATA frame repeats the last one. -/
  resendNext : Bool := false
  tally : Tally := {}
  deriving DecidableEq, Repr

namespace Endpoint

def connected (endpoint : Endpoint) : Bool := endpoint.sequence.connected

/-- Starts the handshake over; everything but the tally is forgotten. -/
def reset (endpoint : Endpoint) : Wire.Frame × Endpoint :=
  (.reset, { tally := { endpoint.tally with resetsSent := endpoint.tally.resetsSent + 1 } })

/-- Acknowledges the last DATA frame received. -/
def ack (endpoint : Endpoint) : Wire.Frame × Endpoint :=
  (.ack endpoint.sequence.ackToSend,
   { endpoint with tally.acksSent := endpoint.tally.acksSent + 1 })

def oversized (payload : List UInt8) : List Note :=
  if payload.length > maxPayload then [.oversizedPayload payload.length maxPayload] else []

/-- Takes the next frame number for `payload`. -/
def data (endpoint : Endpoint) (payload : List UInt8) : Wire.Frame × Endpoint :=
  let number := endpoint.sequence.nextFrame
  let following := (number + 1) % Wire.Control.modulus
  (.data number endpoint.sequence.ackToSend endpoint.resendNext payload,
   { endpoint with
     sequence.nextFrame := following
     sequence.expectedAck := following
     resendNext := false
     tally.dataSent := endpoint.tally.dataSent + 1 })

/-- Steps back one frame number; the next DATA frame is marked as a resend. -/
def rewind (endpoint : Endpoint) : Endpoint :=
  let number := (endpoint.sequence.nextFrame + Wire.Control.modulus - 1) % Wire.Control.modulus
  { endpoint with
    sequence.nextFrame := number
    sequence.expectedAck := number
    resendNext := true }

end Endpoint
end NcpHost
