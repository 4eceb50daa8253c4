import NcpHost.Bootloader.Stage
import NcpHost.Mode

/-! Why the host refuses or fails an operation. -/
namespace NcpHost

inductive HostError where
  | notOpen
  | illegalSwitch (current requested : Mode)
  | port (error : PortError)
  | console (error : Bootloader.ConsoleError)
  deriving DecidableEq, Repr

def HostError.message : HostError → String
  | .notOpen => "Serial port not open"
  | .illegalSwitch current requested =>
    s!"Illegal mode switch from {current.text} to {requested.text}"
  | .port error => error.message
  | .console error => error.message

end NcpHost
