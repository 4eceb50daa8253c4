/-! Command frames: what the payload of a DATA frame carries.

    sequence(1) frameControl(1) [0xFF 0x00]? commandId(1) parameters(N)

The version command alone goes without the two bytes in brackets, so that any
firmware understands it. -/
namespace NcpHost.Ezsp

inductive FrameError where
  | tooShort (length : Nat)
  /-- The response to the named command ends early. -/
  | truncated (command : String)
  deriving DecidableEq, Repr

def FrameError.message : FrameError → String
  | .tooShort length => s!"EZSP frame too short: {length} bytes"
  | .truncated command => s!"Truncated {command} response"

def versionCommand : UInt8 := 0x00
/-- Asks the firmware to start its bootloader. -/
def launchBootloader : UInt8 := 0x8F
/-- The argument of `launchBootloader` that keeps the menu usable. -/
def normalMode : UInt8 := 0x01
/-- The version of the command protocol that the host asks for. -/
def protocolVersion : UInt8 := 8

def extendedMark : UInt8 := 0xFF

structure Frame where
  sequence : UInt8
  frameControl : UInt8
  commandId : UInt8
  parameters : List UInt8
  deriving DecidableEq, Repr

namespace Frame

/-- An outgoing command. -/
def encode (sequence commandId : UInt8) (parameters : List UInt8) : List UInt8 :=
  if commandId = versionCommand then sequence :: 0 :: commandId :: parameters
  else sequence :: 0 :: extendedMark :: 0 :: commandId :: parameters

/-- Reads either form; the mark in third place tells them apart. -/
def decode : List UInt8 → Except FrameError Frame
  | data@(sequence :: frameControl :: third :: rest) =>
    if third = extendedMark then
      match rest with
      | _ :: commandId :: parameters => .ok ⟨sequence, frameControl, commandId, parameters⟩
      | _ => .error (.tooShort data.length)
    else .ok ⟨sequence, frameControl, third, rest⟩
  | data => .error (.tooShort data.length)

end Frame
end NcpHost.Ezsp
