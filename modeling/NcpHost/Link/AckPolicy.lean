/-! What to do when a DATA frame is not acknowledged in time. -/
namespace NcpHost

inductive TimeoutAction where
  /-- Log and wait on. -/
  | logOnly
  /-- Send the frame again. -/
  | retransmit
  deriving DecidableEq, Repr

def TimeoutAction.text : TimeoutAction → String
  | .logOnly => "LogOnly"
  | .retransmit => "Retransmit"

inductive AckPolicy where
  | logOnly
  /-- Sends again up to `limit` times between two acknowledgements. -/
  | retransmit (limit attempts : Nat)
  deriving DecidableEq, Repr

namespace AckPolicy

def timeout : AckPolicy → TimeoutAction × AckPolicy
  | .logOnly => (.logOnly, .logOnly)
  | .retransmit limit attempts =>
    if attempts < limit then (.retransmit, .retransmit limit (attempts + 1))
    else (.logOnly, .retransmit limit attempts)

def acknowledged : AckPolicy → AckPolicy
  | .logOnly => .logOnly
  | .retransmit limit _ => .retransmit limit 0

end AckPolicy
end NcpHost
