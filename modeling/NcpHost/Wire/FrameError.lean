import NcpHost.Wire.Crc
import NcpHost.Wire.ResetCode

/-! Why a received frame is dropped. -/
namespace NcpHost.Wire

inductive FrameError where
  /-- Fewer bytes than a control byte and a check sequence, or than the kind of
  frame needs. -/
  | tooShort (length : Nat)
  | badChecksum (residue : Crc.Register)
  | danglingEscape
  | unsupportedVersion (version : UInt8)
  | rejectedResetCode (code : ResetCode)
  /-- The co-processor reports a fault of its own. -/
  | peerFault (version : UInt8) (code : ResetCode)
  | unknownControl (control : UInt8)
  deriving DecidableEq, Repr

namespace FrameError

def message : FrameError → String
  | .tooShort length => s!"Frame too short: {length} bytes"
  | .badChecksum residue => s!"CRC mismatch (residue {Text.Hex.word 4 residue.toNat})"
  | .danglingEscape => "Escape byte at end of frame"
  | .unsupportedVersion version =>
    s!"Unsupported ASH version {Text.Hex.byte version} in RSTACK"
  | .rejectedResetCode code => s!"RSTACK reset code {code.text} rejected"
  | .peerFault version code =>
    s!"NCP reported error {code.text} (version {Text.Hex.byte version})"
  | .unknownControl control => s!"Unknown frame type {Text.Hex.byte control}"

end FrameError
end NcpHost.Wire
