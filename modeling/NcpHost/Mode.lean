/-! Which program runs on the adapter, as far as the host knows. -/
namespace NcpHost

inductive Mode where
  /-- Nothing heard yet. -/
  | unknown
  /-- The link is up and commands are accepted. -/
  | application
  /-- In the bootloader, for a firmware upload. -/
  | upgrading
  /-- In the bootloader, on the way back to the application. -/
  | leaving
  deriving DecidableEq, Repr

namespace Mode

def isBootloader : Mode → Bool
  | .upgrading | .leaving => true
  | .unknown | .application => false

def text : Mode → String
  | .unknown => "Unknown"
  | .application => "EZSP"
  | .upgrading => "Bootloader (upgrade)"
  | .leaving => "Bootloader (exit to EZSP)"

end Mode
end NcpHost
