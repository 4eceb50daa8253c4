import NcpHost.Event
import NcpHost.Note
import NcpHost.Text.Quoted

/-! What can listen to a host: a recorder that keeps every event, a channel that
hands events on while someone listens, and the log. -/
namespace NcpHost

/-- Keeps every event, oldest first. -/
structure Recorder where
  all : List Event := []
  deriving DecidableEq, Repr

namespace Recorder

def observe (recorder : Recorder) (event : Event) : Recorder :=
  ⟨recorder.all ++ [event]⟩

/-- What was recorded, packets left out. -/
def events (recorder : Recorder) : List Event :=
  recorder.all.filter (! ·.isPacket)

def packets (recorder : Recorder) : List Event :=
  recorder.all.filter (·.isPacket)

/-- How often `event` was recorded; packets are never counted. -/
def count (recorder : Recorder) (event : Event) : Nat :=
  recorder.events.count event

end Recorder

/-- Events on their way to a listener. -/
structure Channel where
  listening : Bool := true
  waiting : List Event := []
  deriving DecidableEq, Repr

namespace Channel

/-- Without a listener the event is lost. -/
def observe (channel : Channel) (event : Event) : Channel :=
  if channel.listening then { channel with waiting := channel.waiting ++ [event] } else channel

def takeAll (channel : Channel) : List Event × Channel :=
  (channel.waiting, { channel with waiting := [] })

def hangUp (_ : Channel) : Channel :=
  { listening := false }

end Channel

namespace Event

/-! How an event reads in the log. -/

def level : Event → Level
  | .adapterSilent => .error
  | .adapterReady | .promptSeen _ | .transferReady | .modeChanged .. => .info
  | .frameReceived .. => .debug
  | .packet .. => .trace

def message : Event → String
  | .adapterReady => "Adapter ready"
  | .adapterSilent => "Adapter not responding"
  | .frameReceived .. => "EZSP frame received"
  | .promptSeen _ => "Bootloader prompt seen"
  | .transferReady => "Bootloader ready for firmware transfer"
  | .modeChanged .. => "Mode changed"
  | .packet .. => "Serial packet"

def fields : Event → List (String × String)
  | .adapterReady | .adapterSilent | .transferReady => []
  | .frameReceived commandId sequence parameters =>
    [("command", Text.Hex.byte commandId), ("seq", toString sequence.toNat),
     ("len", toString parameters.length)]
  | .promptSeen none => [("version", "None")]
  | .promptSeen (some version) => [("version", s!"Some({Text.Quoted.quote version})")]
  | .modeChanged old new => [("from", old.text), ("to", new.text)]
  | .packet direction length _ => [("dir", direction.text), ("len", toString length)]

end Event
end NcpHost
