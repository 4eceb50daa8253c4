import NcpHost.Port

/-! Where the dialogue with the bootloader's menu stands. -/
namespace NcpHost.Bootloader

inductive Stage where
  /-- Discarding output until the line goes quiet. -/
  | flushing
  /-- The probe is sent; the menu's header comes next. -/
  | probing
  | headerSeen
  | contentSeen
  /-- A menu entry may be chosen. -/
  | promptSeen
  /-- The upload is chosen; its receiver announces itself next. -/
  | awaitingReceiver
  /-- The receiver is ready; sending the image is the caller's work. -/
  | transferring
  deriving DecidableEq, Repr

namespace Stage

/-- Position in the dialogue. -/
def rank : Stage → Nat
  | .flushing => 0
  | .probing => 1
  | .headerSeen => 2
  | .contentSeen => 3
  | .promptSeen => 4
  | .awaitingReceiver => 5
  | .transferring => 6

def text : Stage → String
  | .flushing => "FLUSHING"
  | .probing => "PROBING"
  | .headerSeen => "MENU_HEADER_SEEN"
  | .contentSeen => "MENU_CONTENT_SEEN"
  | .promptSeen => "PROMPT_SEEN"
  | .awaitingReceiver => "XMODEM_WAITING_READY"
  | .transferring => "XMODEM_TRANSFERRING"

end Stage

inductive ConsoleError where
  /-- A menu entry was asked for at a stage where none can be chosen. -/
  | noPrompt (stage : Stage)
  | port (error : PortError)
  deriving DecidableEq, Repr

def ConsoleError.message : ConsoleError → String
  | .noPrompt stage => s!"No valid bootloader prompt (stage: {stage.text})"
  | .port error => error.message

end NcpHost.Bootloader
