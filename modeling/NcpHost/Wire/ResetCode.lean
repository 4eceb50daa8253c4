import NcpHost.Text.Hex

/-! Why the co-processor restarted, or the fault it reports: the code carried
by RSTACK and ERROR frames. -/
namespace NcpHost.Wire

inductive ResetCode where
  | unknown
  | external
  | powerOn
  | watchdog
  | assert
  | bootloader
  | software
  | exceededMaxAckTimeouts
  | chipSpecific
  | other (byte : UInt8)
  deriving DecidableEq, Repr

namespace ResetCode

def ofByte (byte : UInt8) : ResetCode :=
  if byte = 0x00 then .unknown
  else if byte = 0x01 then .external
  else if byte = 0x02 then .powerOn
  else if byte = 0x03 then .watchdog
  else if byte = 0x06 then .assert
  else if byte = 0x09 then .bootloader
  else if byte = 0x0B then .software
  else if byte = 0x51 then .exceededMaxAckTimeouts
  else if byte = 0x80 then .chipSpecific
  else .other byte

def byte : ResetCode → UInt8
  | .unknown => 0x00
  | .external => 0x01
  | .powerOn => 0x02
  | .watchdog => 0x03
  | .assert => 0x06
  | .bootloader => 0x09
  | .software => 0x0B
  | .exceededMaxAckTimeouts => 0x51
  | .chipSpecific => 0x80
  | .other byte => byte

/-- The restarts that a host's reset request brings about. -/
def CompletesHandshake (code : ResetCode) : Prop :=
  code ∈ [powerOn, software, bootloader]

instance (code : ResetCode) : Decidable code.CompletesHandshake :=
  inferInstanceAs (Decidable (code ∈ _))

def reason : ResetCode → String
  | .unknown => "unknown"
  | .external => "external"
  | .powerOn => "power-on"
  | .watchdog => "watchdog"
  | .assert => "assert"
  | .bootloader => "ran from bootloader"
  | .software => "software"
  | .exceededMaxAckTimeouts => "exceeded max ack timeouts"
  | .chipSpecific => "chip specific"
  | .other _ => "other"

def text (code : ResetCode) : String :=
  s!"{code.reason} ({Text.Hex.byte code.byte})"

@[simp] theorem byte_ofByte (b : UInt8) : (ofByte b).byte = b := by
  unfold ofByte
  split
  · simp_all [byte]
  repeat (split; · simp_all [byte])
  rfl

end ResetCode
end NcpHost.Wire
