import NcpHost.Mode

/-! What the host reports to whoever uses it. -/
namespace NcpHost

inductive Direction where
  /-- Host to adapter. -/
  | sent
  /-- Adapter to host. -/
  | received
  deriving DecidableEq, Repr

def Direction.text : Direction → String
  | .sent => "TX"
  | .received => "RX"

inductive Event where
  /-- The handshake is done; commands flow. -/
  | adapterReady
  /-- The adapter answered neither the link nor the bootloader's probe. -/
  | adapterSilent
  /-- A response, or a message of the adapter's own accord. -/
  | frameReceived (commandId sequence : UInt8) (parameters : List UInt8)
  | promptSeen (version : Option String)
  /-- The bootloader waits for a firmware image. -/
  | transferReady
  | modeChanged (old new : Mode)
  /-- Bytes passed the port: how many, and the first of them. -/
  | packet (direction : Direction) (length : Nat) (preview : List UInt8)
  deriving DecidableEq, Repr

namespace Event

/-- Events without what they carry. -/
inductive Kind where
  | adapterReady
  | adapterSilent
  | frameReceived
  | promptSeen
  | transferReady
  | modeChanged
  | packet
  deriving DecidableEq, Repr

def kind : Event → Kind
  | .adapterReady => .adapterReady
  | .adapterSilent => .adapterSilent
  | .frameReceived .. => .frameReceived
  | .promptSeen _ => .promptSeen
  | .transferReady => .transferReady
  | .modeChanged .. => .modeChanged
  | .packet .. => .packet

def isPacket : Event → Bool
  | .packet .. => true
  | _ => false

end Event
end NcpHost
