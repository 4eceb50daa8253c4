import NcpHost.Link.Basic

/-! What the user can set. -/
namespace NcpHost

structure Settings where
  /-- Path of the serial port. -/
  port : String := ""
  baudRate : UInt32 := 115200
  hardwareFlowControl : Bool := false
  /-- How long the host loop waits for bytes. -/
  pollIntervalMs : UInt64 := 20
  dataAckTimeoutMs : UInt64 := 1600
  resetAckTimeoutMs : UInt64 := 5000
  /-- Silence required before the bootloader is probed. -/
  bootloaderQuietMs : UInt64 := 100
  /-- Upload firmware instead of returning to the application when the first
  reset fails. -/
  forceUpgradeOnInitTimeout : Bool := false
  /-- Send unacknowledged DATA frames again instead of only logging them. -/
  retransmitOnAckTimeout : Bool := false
  /-- How often a frame is sent again. -/
  maxRetransmits : UInt32 := 3
  deriving DecidableEq, Repr

namespace Settings

def timeouts (settings : Settings) : Timeouts where
  dataAck := settings.dataAckTimeoutMs.toNat
  resetAck := settings.resetAckTimeoutMs.toNat

def policy (settings : Settings) : AckPolicy :=
  if settings.retransmitOnAckTimeout then .retransmit settings.maxRetransmits.toNat 0
  else .logOnly

end Settings
end NcpHost
