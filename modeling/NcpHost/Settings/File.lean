import NcpHost.Settings.Basic
import NcpHost.Text.Utf8
import NcpHost.Toml.Document
import NcpHost.Toml.Written

/-! Settings as a TOML file. Reading takes the keys it knows and defaults for the
others; writing puts every key on a line of its own. -/
namespace NcpHost

inductive SettingsError where
  | missingFile
  | notText
  /-- No TOML, or a value of the wrong kind or out of range. -/
  | malformed
  deriving DecidableEq, Repr

def SettingsError.message : SettingsError → String
  | .missingFile => "No such file or directory (os error 2)"
  | .notText => "stream did not contain valid UTF-8"
  | .malformed => "malformed settings"

namespace Settings

/-- The text under a key. -/
def textAt (entries : Toml.Entries) (key : String) (fallback : String) : Option String :=
  match entries.get? key with
  | none => some fallback
  | some (.text content) => some content
  | some _ => none

/-- The whole number under a key, which must be below `bound`. -/
def numberAt (entries : Toml.Entries) (key : String) (bound fallback : Nat) : Option Nat :=
  match entries.get? key with
  | none => some fallback
  | some (.integer number) =>
    if 0 ≤ number ∧ number < bound then some number.toNat else none
  | some _ => none

def flagAt (entries : Toml.Entries) (key : String) (fallback : Bool) : Option Bool :=
  match entries.get? key with
  | none => some fallback
  | some (.boolean flag) => some flag
  | some _ => none

def word32At (entries : Toml.Entries) (key : String) (fallback : UInt32) : Option UInt32 :=
  (numberAt entries key UInt32.size fallback.toNat).map UInt32.ofNat

def word64At (entries : Toml.Entries) (key : String) (fallback : UInt64) : Option UInt64 :=
  (numberAt entries key UInt64.size fallback.toNat).map UInt64.ofNat

def ofTable? (entries : Toml.Entries) : Option Settings := do
  let base : Settings := {}
  some {
    port := ← textAt entries "port" base.port
    baudRate := ← word32At entries "baud_rate" base.baudRate
    hardwareFlowControl := ← flagAt entries "hardware_flow_control" base.hardwareFlowControl
    pollIntervalMs := ← word64At entries "poll_interval_ms" base.pollIntervalMs
    dataAckTimeoutMs := ← word64At entries "data_ack_timeout_ms" base.dataAckTimeoutMs
    resetAckTimeoutMs := ← word64At entries "reset_ack_timeout_ms" base.resetAckTimeoutMs
    bootloaderQuietMs := ← word64At entries "bootloader_quiet_ms" base.bootloaderQuietMs
    forceUpgradeOnInitTimeout :=
      ← flagAt entries "force_firmware_upgrade_on_init_timeout" base.forceUpgradeOnInitTimeout
    retransmitOnAckTimeout :=
      ← flagAt entries "retransmit_on_ack_timeout" base.retransmitOnAckTimeout
    maxRetransmits := ← word32At entries "max_retransmits" base.maxRetransmits }

/-- Reads the content of a file, `none` if there is no such file. -/
def load (content : Option (List UInt8)) : Except SettingsError Settings :=
  match content with
  | none => .error .missingFile
  | some bytes =>
    match Text.Utf8.decode? bytes with
    | none => .error .notText
    | some text =>
      match (Toml.Entries.ofText? text).bind ofTable? with
      | none => .error .malformed
      | some settings => .ok settings

/-- The content of a file that holds these settings; integers that TOML cannot
hold make it fail. -/
def save (settings : Settings) : Except SettingsError (List Char) :=
  let flag (key : String) (value : Bool) := some (Toml.Written.line key (Toml.Written.boolean value))
  let number (key : String) (value : Nat) :=
    (Toml.Written.integer? value).map (Toml.Written.line key)
  let lines := [
    some (Toml.Written.line "port" (Toml.Written.text settings.port.toList)),
    number "baud_rate" settings.baudRate.toNat,
    flag "hardware_flow_control" settings.hardwareFlowControl,
    number "poll_interval_ms" settings.pollIntervalMs.toNat,
    number "data_ack_timeout_ms" settings.dataAckTimeoutMs.toNat,
    number "reset_ack_timeout_ms" settings.resetAckTimeoutMs.toNat,
    number "bootloader_quiet_ms" settings.bootloaderQuietMs.toNat,
    flag "force_firmware_upgrade_on_init_timeout" settings.forceUpgradeOnInitTimeout,
    flag "retransmit_on_ack_timeout" settings.retransmitOnAckTimeout,
    number "max_retransmits" settings.maxRetransmits.toNat]
  match lines.mapM id with
  | none => .error .malformed
  | some lines => .ok lines.flatten

end Settings
end NcpHost
