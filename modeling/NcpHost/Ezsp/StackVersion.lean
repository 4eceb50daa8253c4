import NcpHost.Ezsp.Frame

/-! The answer to the version command. -/
namespace NcpHost.Ezsp

structure StackVersion where
  protocolVersion : UInt8
  stackType : UInt8
  /-- Four nibbles: major, minor, patch, build. -/
  stackVersion : UInt16
  deriving DecidableEq, Repr

namespace StackVersion

/-- The last two parameters are one word, low byte first; more are ignored. -/
def ofParameters : List UInt8 → Except FrameError StackVersion
  | protocolVersion :: stackType :: low :: high :: _ =>
    .ok ⟨protocolVersion, stackType, low.toUInt16 ||| (high.toUInt16 <<< 8)⟩
  | _ => .error (.truncated "version")

def nibble (version : StackVersion) (place : UInt16) : Nat :=
  ((version.stackVersion >>> place) &&& 0xF).toNat

def text (version : StackVersion) : String :=
  s!"{version.nibble 12}.{version.nibble 8}.{version.nibble 4}.{version.nibble 0}"

end StackVersion
end NcpHost.Ezsp
