import NcpHost.Endpoint.Receive

/-! Histories of one end of the link: its operations as data, and what each one
puts out. -/
namespace NcpHost
namespace Endpoint

inductive Operation where
  | reset
  | ack
  | data (payload : List UInt8)
  | rewind
  | receive (bytes : List UInt8)
  deriving DecidableEq, Repr

/-- What an operation leaves and puts out. -/
structure Outcome where
  endpoint : Endpoint
  built : Option Wire.Frame := none
  signals : List Signal := []
  notes : List Note := []
  deriving DecidableEq, Repr

def apply (endpoint : Endpoint) : Operation → Outcome
  | .reset => { endpoint := endpoint.reset.2, built := endpoint.reset.1 }
  | .ack => { endpoint := endpoint.ack.2, built := endpoint.ack.1 }
  | .data payload =>
    { endpoint := (endpoint.data payload).2
      built := (endpoint.data payload).1
      notes := oversized payload }
  | .rewind => { endpoint := endpoint.rewind }
  | .receive bytes =>
    let intake := endpoint.receive bytes
    { endpoint := intake.endpoint, signals := intake.signals, notes := intake.notes }

/-- The outcomes of a history, oldest first. -/
def outcomes (endpoint : Endpoint) : List Operation → List Outcome
  | [] => []
  | operation :: later =>
    let outcome := endpoint.apply operation
    outcome :: outcome.endpoint.outcomes later

/-- The state that a history leaves. -/
def run (endpoint : Endpoint) (history : List Operation) : Endpoint :=
  history.foldl (fun state operation => (state.apply operation).endpoint) endpoint

end Endpoint
end NcpHost
