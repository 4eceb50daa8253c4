import NcpHost.Wire.Control
import NcpHost.Wire.FrameError
import NcpHost.Wire.Stuffing
import NcpHost.Wire.Whitening

/-! Frames and their form on the line: control byte and content, check
sequence, stuffing, and the closing flag. Writing goes through `Frame.body` and
`encode`; reading starts from the stuffed bytes between two flags. -/
namespace NcpHost.Wire

/-- The protocol version that a reset acknowledgement must name. -/
def protocolVersion : UInt8 := 0x02

/-- A body with its check sequence, stuffed and closed. -/
def encode (body : List UInt8) : List UInt8 :=
  stuff (Crc.append body) ++ [flag]

inductive Frame where
  | data (number acked : UInt8) (resend : Bool) (payload : List UInt8)
  | ack (number : UInt8)
  | nak (number : UInt8)
  | reset
  | resetAck (code : ResetCode)
  deriving DecidableEq, Repr

namespace Frame

/-- Control byte and content, before the check sequence. -/
def body : Frame → List UInt8
  | .data number acked resend payload =>
    (Control.dataByte number acked ||| (if resend then Control.markBit else 0)) ::
      Whitening.whiten payload
  | .ack number => [Control.ackByte number]
  | .nak number => [Control.nakByte number]
  | .reset => [Control.resetByte]
  | .resetAck code => [Control.resetAckByte, protocolVersion, code.byte]

/-- The bytes to send. A reset is announced by a cancel byte, so that the peer
drops a frame it has begun to read. -/
def wire : Frame → List UInt8
  | .reset => cancel :: encode Frame.reset.body
  | frame => encode frame.body

/-- Reads a body whose check sequence has been removed. A reset acknowledgement
must name the right version and a code that completes the handshake; a fault
report is never a frame for the receiver, and its missing fields count as zero. -/
def ofBody : List UInt8 → Except FrameError Frame
  | [] => .error (.tooShort 2)
  | control :: content =>
    match Control.ofByte control with
    | .data number acked resend =>
      .ok (.data number acked resend (Whitening.whiten content))
    | .ack number _ => .ok (.ack number)
    | .nak number _ => .ok (.nak number)
    | .reset => .ok .reset
    | .resetAck =>
      match content with
      | version :: code :: _ =>
        if version = protocolVersion then
          if (ResetCode.ofByte code).CompletesHandshake then .ok (.resetAck (.ofByte code))
          else .error (.rejectedResetCode (.ofByte code))
        else .error (.unsupportedVersion version)
      | _ => .error (.tooShort (content.length + 3))
    | .error => .error (.peerFault (content.getD 0 0) (.ofByte (content.getD 1 0)))
    | .unknown byte => .error (.unknownControl byte)

/-- Reads the bytes between two flags. -/
def ofStuffed (stuffed : List UInt8) : Except FrameError Frame :=
  match unstuff stuffed with
  | .error _ => .error .danglingEscape
  | .ok frame =>
    if frame.length < 3 then .error (.tooShort frame.length)
    else if Crc.Intact frame then ofBody (frame.take (frame.length - 2))
    else .error (.badChecksum (Crc.checksum frame))

end Frame
end NcpHost.Wire
