import NcpHost.Text.Hex

/-! The control byte, first of every frame: what kind of frame it is and, for
three kinds, the sequence numbers it carries. -/
namespace NcpHost.Wire

inductive Control where
  /-- `0fff raaa`: frame number, resend bit, piggybacked acknowledgement. -/
  | data (frame acked : UInt8) (resend : Bool)
  /-- `100n xaaa` -/
  | ack (number : UInt8) (notReady : Bool)
  /-- `101n xaaa` -/
  | nak (number : UInt8) (notReady : Bool)
  | reset
  | resetAck
  | error
  | unknown (byte : UInt8)
  deriving DecidableEq, Repr

namespace Control

def resetByte : UInt8 := 0xC0
def resetAckByte : UInt8 := 0xC1
def errorByte : UInt8 := 0xC2
def ackBits : UInt8 := 0x80
def nakBits : UInt8 := 0xA0
/-- The resend bit of a DATA frame, the not-ready bit of the other two. -/
def markBit : UInt8 := 0x08
def numberMask : UInt8 := 0x07
/-- Sequence numbers count modulo this. -/
def modulus : UInt8 := 8

def ofByte (byte : UInt8) : Control :=
  if byte &&& 0x80 = 0 then
    .data ((byte >>> 4) &&& numberMask) (byte &&& numberMask) (byte &&& markBit ≠ 0)
  else if byte = resetByte then .reset
  else if byte = resetAckByte then .resetAck
  else if byte = errorByte then .error
  else if byte &&& 0xE0 = ackBits then .ack (byte &&& numberMask) (byte &&& markBit ≠ 0)
  else if byte &&& 0xE0 = nakBits then .nak (byte &&& numberMask) (byte &&& markBit ≠ 0)
  else .unknown byte

/-- Numbers are cut to three bits. -/
def dataByte (frame acked : UInt8) : UInt8 :=
  ((frame &&& numberMask) <<< 4) ||| (acked &&& numberMask)

def ackByte (number : UInt8) : UInt8 := ackBits ||| (number &&& numberMask)

def nakByte (number : UInt8) : UInt8 := nakBits ||| (number &&& numberMask)

def isData : Control → Bool
  | .data .. => true
  | _ => false

def text : Control → String
  | .data frame acked resend =>
    s!"DATA(frm={frame.toNat}, ack={acked.toNat}" ++ (if resend then ", reTx)" else ")")
  | .ack number _ => s!"ACK({number.toNat})"
  | .nak number _ => s!"NAK({number.toNat})"
  | .reset => "RST"
  | .resetAck => "RSTACK"
  | .error => "ERROR"
  | .unknown byte => s!"UNKNOWN({Text.Hex.byte byte})"

end Control
end NcpHost.Wire
