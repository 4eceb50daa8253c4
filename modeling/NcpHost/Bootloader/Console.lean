import NcpHost.Bootloader.Stage
import NcpHost.Text.Blank
import NcpHost.Text.Utf8
import NcpHost.Timer
import NcpHost.World

/-! The bootloader's console: text without framing, in blocks that each end
with a zero byte. The host lets the line go quiet, probes, follows the menu
through its header, the rest of the header's line and the prompt, and chooses an
entry. -/
namespace NcpHost.Bootloader

/-- `Gecko Bootloader` -/
def header : List UInt8 :=
  [0x47, 0x65, 0x63, 0x6B, 0x6F, 0x20, 0x42, 0x6F, 0x6F, 0x74, 0x6C, 0x6F, 0x61, 0x64, 0x65, 0x72]

/-- `BL >` -/
def prompt : List UInt8 := [0x42, 0x4C, 0x20, 0x3E]

def newline : UInt8 := 0x0A

/-- What the upload's receiver sends while it waits: `C`. -/
def receiverReady : UInt8 := 0x43

/-- More unmatched text than this is not kept. -/
def maxBuffer : Nat := 4096

/-- What follows the first occurrence of `mark`. -/
def after? (mark : List UInt8) : List UInt8 → Option (List UInt8)
  | [] => if mark.isEmpty then some [] else none
  | text@(_ :: rest) =>
    if mark.isPrefixOf text then some (text.drop mark.length) else after? mark rest

theorem length_after?_lt {mark text rest : List UInt8} (nonempty : mark ≠ [])
    (found : after? mark text = some rest) : rest.length < text.length := by
  induction text with
  | nil => cases mark <;> simp_all [after?]
  | cons byte tail ih =>
    unfold after? at found
    split at found
    · cases found
      have := List.length_pos_iff.2 nonempty
      simp only [List.length_drop, List.length_cons]
      omega
    · have := ih found
      simp only [List.length_cons]
      omega

/-- The text before the first newline, and what follows it. -/
def line? (text : List UInt8) : Option (List UInt8 × List UInt8) :=
  match text.dropWhile (· ≠ newline) with
  | [] => none
  | _ :: rest => some (text.takeWhile (· ≠ newline), rest)

theorem length_line?_lt {text line rest : List UInt8}
    (found : line? text = some (line, rest)) : rest.length < text.length := by
  unfold line? at found
  split at found
  · simp at found
  · next drop =>
    cases found
    have := (List.dropWhile_sublist (l := text) (· ≠ newline)).length_le
    rw [drop] at this
    exact this

/-- The version text on the header's line. -/
def versionOf (line : List UInt8) : Option String :=
  let text := Text.Blank.trim (Text.Utf8.decode line)
  if text.isEmpty then none else some (String.ofList text)

inductive ConsoleEvent where
  | promptDetected
  | transferReady
  deriving DecidableEq, Repr

structure Console where
  stage : Stage := .flushing
  /-- Text of the current block that has matched nothing yet. -/
  buffer : List UInt8 := []
  timer : Timer := {}
  quietMs : Nat := 100
  version : Option String := none
  deriving DecidableEq, Repr

namespace Console

/-- Starts over: wait for quiet, then probe. -/
def reset (console : Console) (now : Nat) : Console :=
  { console with
    stage := .flushing
    buffer := []
    timer := console.timer.start now console.quietMs }

/-- Lets go of the port. -/
def detach (console : Console) : Console :=
  { console with stage := .flushing, buffer := [], timer := console.timer.stop }

/-- Sends the probe when the line has been quiet; tells whether it was sent. The
stage moves on even if the port refuses the probe. -/
def poll (console : Console) (world : World) : Except PortError Bool × Console × World :=
  let (expired, timer) := console.timer.collect
  let console := { console with timer }
  if expired ∧ console.stage = .flushing then
    let (result, world) := world.transmit .probe
    (result.map fun _ => true, { console with stage := .probing }, world)
  else (.ok false, console, world)

/-- What came of some text. -/
structure Reading where
  console : Console
  events : List ConsoleEvent := []
  notes : List Note := []
  deriving DecidableEq, Repr

/-- Follows the menu as far as the buffer reaches: the header, the end of its
line, and every prompt after that. -/
def scan (console : Console) : Reading :=
  match console.stage with
  | .probing =>
    match _found : after? header console.buffer with
    | none => { console }
    | some rest => scan { console with stage := .headerSeen, buffer := rest }
  | .headerSeen =>
    match _found : line? console.buffer with
    | none => { console }
    | some (line, rest) =>
      let later := scan { console with
        stage := .contentSeen
        buffer := rest
        version := (versionOf line).or console.version }
      { later with notes := .bootloaderDetected (versionOf line) :: later.notes }
  | .contentSeen | .promptSeen =>
    match _found : after? prompt console.buffer with
    | none => { console }
    | some rest =>
      let later := scan { console with stage := .promptSeen, buffer := rest }
      { later with events := .promptDetected :: later.events }
  | .flushing | .awaitingReceiver | .transferring => { console }
termination_by console.buffer.length
decreasing_by
  · exact length_after?_lt (by decide) _found
  · exact length_line?_lt _found
  · exact length_after?_lt (by decide) _found

/-- Text up to each zero byte, and the text after the last one. -/
def blocks : List UInt8 → List (List UInt8) × List UInt8
  | [] => ([], [])
  | byte :: rest =>
    let (complete, last) := blocks rest
    if byte = 0 then ([] :: complete, last)
    else
      match complete with
      | [] => ([], byte :: last)
      | first :: later => ((byte :: first) :: later, last)

/-- Text that continues the current block. -/
def extend (console : Console) (text : List UInt8) : Reading :=
  scan { console with buffer := console.buffer ++ text }

/-- Complete blocks: each is followed to its end and what is left of it dropped. -/
def readBlocks (console : Console) : List (List UInt8) → Reading
  | [] => { console }
  | text :: more =>
    let first := console.extend text
    let later := readBlocks { first.console with buffer := [] } more
    { later with
      events := first.events ++ later.events
      notes := first.notes ++ later.notes }

/-- Keeps the buffer within bounds; a header's length of text is kept. -/
def trim (console : Console) : Console :=
  if console.buffer.length > maxBuffer then
    { console with buffer := console.buffer.drop (console.buffer.length - header.length) }
  else console

/-- Reads console text that arrived at `now`. -/
def receive (console : Console) (now : Nat) (bytes : List UInt8) : Reading :=
  match console.stage with
  | .flushing => { console := { console with timer := console.timer.start now console.quietMs } }
  | .awaitingReceiver =>
    if bytes.getLast? = some receiverReady then
      { console := { console with stage := .transferring }, events := [.transferReady] }
    else { console }
  | .transferring => { console }
  | .probing | .headerSeen | .contentSeen | .promptSeen =>
    let (complete, last) := blocks bytes
    let first := console.readBlocks complete
    let later := first.console.extend last
    { console := later.console.trim
      events := first.events ++ later.events
      notes := first.notes ++ later.notes }

/-- Chooses a menu entry, which takes a prompt. Choosing to run the application
ends the dialogue. -/
def choose (console : Console) (world : World) (entry : MenuEntry) :
    Except ConsoleError Unit × Console × World :=
  if console.stage = .promptSeen then
    match world.transmit (.choice entry) with
    | (.error error, world) => (.error (.port error), console, world)
    | (.ok (), world) =>
      match entry with
      | .run => (.ok (), console.detach, world.note .runChosen)
      | .upload =>
        (.ok (), { console with stage := .awaitingReceiver, buffer := [] },
         world.note .uploadChosen)
  else (.error (.noPrompt console.stage), console, world)

end Console
end NcpHost.Bootloader
