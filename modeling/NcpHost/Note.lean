import NcpHost.Event
import NcpHost.Ezsp.Frame
import NcpHost.Host.Error
import NcpHost.Link.AckPolicy
import NcpHost.Wire.FrameError

/-! The log: one constructor for each thing worth telling, and how it reads. -/
namespace NcpHost

inductive Level where
  | error
  | warn
  | info
  | debug
  | trace
  deriving DecidableEq, Repr

namespace Level

def text : Level → String
  | .error => "ERROR"
  | .warn => "WARN"
  | .info => "INFO"
  | .debug => "DEBUG"
  | .trace => "TRACE"

/-- The least important level has the highest number. -/
def rank : Level → Nat
  | .error => 0
  | .warn => 1
  | .info => 2
  | .debug => 3
  | .trace => 4

end Level

/-- What the host undertakes of its own accord and may fail at. -/
inductive Undertaking where
  | flushQueue
  | resendAfterNak
  | retransmit
  | sendNext
  | resetAfterLeaving
  deriving DecidableEq, Repr

def Undertaking.text : Undertaking → String
  | .flushQueue => "flush queue"
  | .resendAfterNak => "resend after NAK"
  | .retransmit => "retransmit"
  | .sendNext => "send next command"
  | .resetAfterLeaving => "reset after leaving bootloader"

inductive Note where
  | oversizedPayload (length limit : Nat)
  | frameDropped (error : Wire.FrameError)
  | receiveOverflow (limit : Nat)
  | ackMismatch (expected received : UInt8)
  | strayResetAck (code : Wire.ResetCode)
  | resetSent (port : String)
  | resetAcknowledged (code : Wire.ResetCode)
  | resetUnanswered (ms : Nat)
  | dataUnacknowledged (ms : Nat) (action : TimeoutAction)
  | bootloaderDetected (version : Option String)
  | runChosen
  | uploadChosen
  | opening (port : String)
  | launching
  | switchRejected (current requested : Mode)
  | linkUp (code : Wire.ResetCode)
  | resumingInterrupted
  | nakReceived (number : UInt8)
  | retransmitting
  | ackFailed (error : PortError)
  | malformedCommandFrame (error : Ezsp.FrameError)
  | unsolicited (commandId sequence : UInt8)
  | probingAfterReset (target : Mode)
  | adapterSilent (attempts : Nat)
  | probeFailed (error : PortError)
  | leavingFailed (error : Bootloader.ConsoleError)
  | uploadFailed (error : Bootloader.ConsoleError)
  | failed (undertaking : Undertaking) (error : HostError)
  | sessionStarted
  | otherProtocolVersion (requested reported : UInt8)
  deriving DecidableEq, Repr

namespace Note

def level : Note → Level
  | .adapterSilent _ | .leavingFailed _ | .uploadFailed _ => .error
  | .oversizedPayload .. | .frameDropped _ | .receiveOverflow _ | .ackMismatch ..
  | .strayResetAck _ | .resetUnanswered _ | .dataUnacknowledged .. | .switchRejected ..
  | .ackFailed _ | .malformedCommandFrame _ | .probeFailed _ | .failed ..
  | .otherProtocolVersion .. => .warn
  | .resetSent _ | .resetAcknowledged _ | .bootloaderDetected _ | .runChosen | .uploadChosen
  | .opening _ | .launching | .linkUp _ | .resumingInterrupted | .nakReceived _
  | .retransmitting | .unsolicited .. | .probingAfterReset _ | .sessionStarted => .info

def message : Note → String
  | .oversizedPayload .. => "DATA payload exceeds NCP limit"
  | .frameDropped _ => "Dropping incoming frame"
  | .receiveOverflow _ => "Incoming frame overflow"
  | .ackMismatch .. => "DATA frame ack number mismatch"
  | .strayResetAck _ => "RSTACK received while already connected, ignoring"
  | .resetSent _ => "Sent ASH reset"
  | .resetAcknowledged _ => "NCP acknowledged reset"
  | .resetUnanswered _ => "No RSTACK from NCP, reset failed"
  | .dataUnacknowledged .. => "DATA frame not acknowledged"
  | .bootloaderDetected _ => "Gecko bootloader detected"
  | .runChosen => "Bootloader: run application selected"
  | .uploadChosen => "Bootloader: firmware upload selected"
  | .opening _ => "Opening dongle"
  | .launching => "Asking EZSP firmware to launch the bootloader"
  | .switchRejected .. => "Rejected mode switch"
  | .linkUp _ => "ASH link up"
  | .resumingInterrupted => "Resending command interrupted by reset"
  | .nakReceived _ => "NAK received, resending command"
  | .retransmitting => "Retransmitting unacknowledged command"
  | .ackFailed _ => "Failed to acknowledge DATA frame"
  | .malformedCommandFrame _ => "Dropping malformed EZSP frame"
  | .unsolicited .. => "Unexpected asynchronous message"
  | .probingAfterReset _ => "ASH reset failed, probing for bootloader"
  | .adapterSilent _ => "Adapter not responding"
  | .probeFailed _ => "Failed to probe bootloader"
  | .leavingFailed _ => "Failed to leave bootloader"
  | .uploadFailed _ => "Failed to select firmware upload"
  | .failed undertaking _ => s!"Failed to {undertaking.text}"
  | .sessionStarted => "Dongle session started"
  | .otherProtocolVersion .. => "NCP speaks a different EZSP protocol version"

/-- Names and values of what a note is about. -/
def fields : Note → List (String × String)
  | .oversizedPayload length limit => [("len", toString length), ("max", toString limit)]
  | .frameDropped error => [("error", error.message)]
  | .receiveOverflow limit => [("max", toString limit)]
  | .ackMismatch expected received =>
    [("expected", toString expected.toNat), ("received", toString received.toNat)]
  | .strayResetAck code => [("code", code.text)]
  | .resetSent port | .opening port => [("port", port)]
  | .resetAcknowledged code | .linkUp code => [("reset_code", code.text)]
  | .resetUnanswered ms => [("timeout_ms", toString ms)]
  | .dataUnacknowledged ms action => [("timeout_ms", toString ms), ("action", action.text)]
  | .bootloaderDetected (some version) => [("version", version)]
  | .switchRejected current requested => [("from", current.text), ("to", requested.text)]
  | .nakReceived number => [("ack", toString number.toNat)]
  | .ackFailed error | .probeFailed error => [("error", error.message)]
  | .malformedCommandFrame error => [("error", error.message)]
  | .unsolicited commandId sequence =>
    [("command", Text.Hex.byte commandId), ("seq", toString sequence.toNat)]
  | .probingAfterReset target => [("target", target.text)]
  | .adapterSilent attempts => [("attempts", toString attempts)]
  | .leavingFailed error | .uploadFailed error => [("error", error.message)]
  | .failed _ error => [("error", error.message)]
  | .otherProtocolVersion requested reported =>
    [("requested", toString requested.toNat), ("reported", toString reported.toNat)]
  | .bootloaderDetected none | .runChosen | .uploadChosen | .launching
  | .resumingInterrupted | .retransmitting | .sessionStarted => []

end Note
end NcpHost
