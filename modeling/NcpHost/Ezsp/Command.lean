import NcpHost.Ezsp.Frame

/-! Commands waiting for their turn or for their answer. -/
namespace NcpHost.Ezsp

structure Command where
  id : UInt8
  parameters : List UInt8
  /-- Assigned when the command is first sent, kept when it is sent again. -/
  sequence : Option UInt8 := none
  deriving DecidableEq, Repr

end NcpHost.Ezsp
