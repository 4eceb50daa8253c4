import NcpHost.Endpoint.Receive
import NcpHost.Timer
import NcpHost.World

/-! The link: one end of it together with the timer for what the peer owes and
the policy for what it does not deliver. One timer serves the handshake and DATA
frames alike; which wait has expired is read off the connected flag. The link
sends no acknowledgement by itself, its owner does. -/
namespace NcpHost

/-- How long the peer may take, in milliseconds. -/
structure Timeouts where
  dataAck : Nat := 1600
  resetAck : Nat := 5000
  deriving DecidableEq, Repr

inductive LinkEvent where
  | payload (data : List UInt8)
  | connected (code : Wire.ResetCode)
  | ackObserved (number : UInt8)
  | nakObserved (number : UInt8)
  | ackMismatch (expected received : UInt8)
  | resetReceived
  /-- The handshake got no answer in time. -/
  | resetFailed
  /-- A DATA frame was not acknowledged in time. -/
  | ackTimeout (action : TimeoutAction)
  deriving DecidableEq, Repr

/-- What the owner of the link hears of a signal. -/
def Signal.event? : Signal → Option LinkEvent
  | .payload data => some (.payload data)
  | .cancelTimer => none
  | .ackObserved number => some (.ackObserved number)
  | .nakObserved number => some (.nakObserved number)
  | .connected code => some (.connected code)
  | .ackMismatch expected received => some (.ackMismatch expected received)
  | .resetReceived => some .resetReceived

structure Link where
  endpoint : Endpoint := {}
  timer : Timer := {}
  timeouts : Timeouts := {}
  policy : AckPolicy := .logOnly
  deriving DecidableEq, Repr

namespace Link

def connected (link : Link) : Bool := link.endpoint.connected

/-- Hands a frame to the port and, once it is out, waits `ms` for the answer. -/
def sendAwaiting (link : Link) (world : World) (frame : Wire.Frame) (ms : Nat) :
    Except PortError Unit × Link × World :=
  match world.transmit (.frame frame) with
  | (.ok (), world) => (.ok (), { link with timer := link.timer.start world.now ms }, world)
  | (.error error, world) => (.error error, link, world)

/-- Asks the peer to restart. -/
def reset (link : Link) (world : World) : Except PortError Unit × Link × World :=
  let (frame, endpoint) := link.endpoint.reset
  let link := { link with endpoint, timer := link.timer.stop }
  match link.sendAwaiting world frame link.timeouts.resetAck with
  | (.ok (), link, world) => (.ok (), link, world.note (.resetSent world.port.name))
  | failed => failed

/-- Acknowledges the last DATA frame received. -/
def acknowledge (link : Link) (world : World) : Except PortError Unit × Link × World :=
  let (frame, endpoint) := link.endpoint.ack
  let (result, world) := world.transmit (.frame frame)
  (result, { link with endpoint }, world)

/-- Sends `payload` in the next DATA frame. The frame number is taken even if
the port refuses the frame. -/
def send (link : Link) (world : World) (payload : List UInt8) :
    Except PortError Unit × Link × World :=
  let (frame, endpoint) := link.endpoint.data payload
  let link := { link with endpoint, timer := link.timer.stop }
  link.sendAwaiting (world.notes (Endpoint.oversized payload)) frame link.timeouts.dataAck

/-- Nothing is owed any more. -/
def endWait (link : Link) (world : World) : Link × World :=
  ({ link with timer := link.timer.stop, policy := link.policy.acknowledged },
   world.record .waitEnded)

/-- Makes the next DATA frame repeat the last; for use right before resending. -/
def prepareResend (link : Link) : Link :=
  { link with endpoint := link.endpoint.rewind }

def heed (state : Link × World) : Signal → Link × World
  | .cancelTimer => state.1.endWait state.2
  | .connected code => (state.1, state.2.note (.resetAcknowledged code))
  | _ => state

/-- Reads bytes. All of them are decoded before the first signal is heeded. -/
def receive (link : Link) (world : World) (bytes : List UInt8) :
    List LinkEvent × Link × World :=
  let intake := link.endpoint.receive bytes
  (intake.signals.filterMap Signal.event?,
   intake.signals.foldl heed
     ({ link with endpoint := intake.endpoint }, world.notes intake.notes))

/-- Collects an expiry of the timer. -/
def poll (link : Link) (world : World) : Option LinkEvent × Link × World :=
  match link.timer.collect with
  | (false, _) => (none, link, world)
  | (true, timer) =>
    if link.connected then
      let (action, policy) := link.policy.timeout
      (some (.ackTimeout action), { link with timer, policy },
       world.note (.dataUnacknowledged link.timeouts.dataAck action))
    else
      (some .resetFailed, { link with timer },
       world.note (.resetUnanswered link.timeouts.resetAck))

end Link
end NcpHost
