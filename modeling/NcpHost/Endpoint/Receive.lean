import NcpHost.Endpoint.Basic

/-! Reading the line byte by byte. A flag closes a segment, which is read as one
frame; cancel drops the segment in progress, a substitute or too many bytes
spoil it, and flow control bytes do not count. Bytes may arrive in any pieces:
`receive_append` says that only their order matters. -/
namespace NcpHost
namespace Endpoint

/-- What came of some received bytes. -/
structure Intake where
  endpoint : Endpoint
  signals : List Signal := []
  notes : List Note := []
  deriving DecidableEq, Repr

/-- A frame for this end. Only DATA frames have their acknowledgement compared;
a second reset acknowledgement changes nothing. -/
def accept (endpoint : Endpoint) : Wire.Frame → Intake
  | .data number acked _ payload =>
    let expected := endpoint.sequence.expectedAck
    let counted := { endpoint with
      sequence.ackToSend := (number + 1) % Wire.Control.modulus
      tally.dataReceived := endpoint.tally.dataReceived + 1 }
    if acked = expected then
      { endpoint := counted, signals := [.cancelTimer, .payload payload] }
    else
      { endpoint := { counted with tally.ackMismatches := counted.tally.ackMismatches + 1 }
        signals := [.ackMismatch expected acked, .payload payload]
        notes := [.ackMismatch expected acked] }
  | .ack number =>
    { endpoint := { endpoint with tally.acksReceived := endpoint.tally.acksReceived + 1 }
      signals := [.cancelTimer, .ackObserved number] }
  | .nak number =>
    { endpoint := { endpoint with
        sequence.nextFrame := number
        tally.naksReceived := endpoint.tally.naksReceived + 1 }
      signals := [.cancelTimer, .nakObserved number] }
  | .reset => { endpoint, signals := [.cancelTimer, .resetReceived] }
  | .resetAck code =>
    if endpoint.connected then { endpoint, notes := [.strayResetAck code] }
    else
      { endpoint := { endpoint with sequence.connected := true }
        signals := [.cancelTimer, .connected code] }

/-- The segment in progress is complete. A spoilt one counts even if it is
empty; otherwise an empty one is no frame. -/
def close (endpoint : Endpoint) : Intake :=
  let fresh := { endpoint with buffer := [], corrupt := false }
  if endpoint.corrupt then
    { endpoint := { fresh with tally.framingErrors := fresh.tally.framingErrors + 1 } }
  else if endpoint.buffer.isEmpty then { endpoint := fresh }
  else
    match Wire.Frame.ofStuffed endpoint.buffer with
    | .ok frame => fresh.accept frame
    | .error error =>
      { endpoint := { fresh with tally := fresh.tally.countError error }
        notes := [.frameDropped error] }

def feed (endpoint : Endpoint) (byte : UInt8) : Intake :=
  if byte = Wire.cancel then { endpoint := { endpoint with buffer := [], corrupt := false } }
  else if byte = Wire.flag then endpoint.close
  else if byte = Wire.substitute then { endpoint := { endpoint with corrupt := true } }
  else if byte = Wire.xon ∨ byte = Wire.xoff then { endpoint }
  else if endpoint.buffer.length < maxStuffed then
    { endpoint := { endpoint with buffer := endpoint.buffer ++ [byte] } }
  else
    { endpoint := { endpoint with corrupt := true }
      notes := if endpoint.corrupt then [] else [.receiveOverflow maxStuffed] }

def receive (endpoint : Endpoint) : List UInt8 → Intake
  | [] => { endpoint }
  | byte :: rest =>
    let first := endpoint.feed byte
    let later := first.endpoint.receive rest
    { later with
      signals := first.signals ++ later.signals
      notes := first.notes ++ later.notes }

@[simp] theorem receive_nil (endpoint : Endpoint) : endpoint.receive [] = { endpoint } := rfl

theorem receive_append (endpoint : Endpoint) (front back : List UInt8) :
    endpoint.receive (front ++ back) =
      let first := endpoint.receive front
      let later := first.endpoint.receive back
      { later with
        signals := first.signals ++ later.signals
        notes := first.notes ++ later.notes } := by
  induction front generalizing endpoint with
  | nil => rfl
  | cons byte rest ih => simp [receive, ih, List.append_assoc]

end Endpoint
end NcpHost
