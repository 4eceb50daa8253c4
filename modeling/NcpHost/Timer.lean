/-! Single-shot timers that are polled. Whoever keeps the time marks a timer
due, by the deadline or by hand; its owner then collects the expiry once. Times
are microseconds, durations milliseconds. -/
namespace NcpHost

structure Timer where
  running : Bool := false
  /-- The expiry has happened and was not collected yet. -/
  due : Bool := false
  deadline : Nat := 0
  /-- The duration of the last start. -/
  lastMs : Option Nat := none
  starts : Nat := 0
  deriving DecidableEq, Repr

namespace Timer

/-- What a timer waits for. -/
inductive Purpose where
  | acknowledgement
  | quiet
  deriving DecidableEq, Repr

def Purpose.text : Purpose → String
  | .acknowledgement => "ash-ack"
  | .quiet => "bootloader-quiet"

/-- Arms the timer anew; an expiry not collected is forgotten. -/
def start (timer : Timer) (now ms : Nat) : Timer where
  running := true
  due := false
  deadline := now + 1000 * ms
  lastMs := some ms
  starts := timer.starts + 1

def stop (timer : Timer) : Timer :=
  { timer with running := false, due := false }

/-- Makes a running timer due at once. -/
def fire (timer : Timer) : Timer :=
  { timer with due := timer.due || timer.running }

/-- Makes a running timer due if its deadline has come. -/
def expire (timer : Timer) (now : Nat) : Timer :=
  if timer.deadline ≤ now then timer.fire else timer

/-- Collects the expiry, which disarms the timer. -/
def collect (timer : Timer) : Bool × Timer :=
  if timer.running && timer.due then (true, timer.stop) else (false, timer)

def remaining (timer : Timer) (now : Nat) : Option Nat :=
  if timer.running then some (timer.deadline - now) else none

end Timer

/-- The timers that have been created, one a purpose. -/
structure Timers where
  byPurpose : List (Timer.Purpose × Timer) := []
  deriving DecidableEq, Repr

namespace Timers

def find? (timers : Timers) (purpose : Timer.Purpose) : Option Timer :=
  timers.byPurpose.lookup purpose

/-- Puts `timer` in the place of the one that served `purpose`. -/
def set (timers : Timers) (purpose : Timer.Purpose) (timer : Timer) : Timers :=
  ⟨(purpose, timer) :: timers.byPurpose.filter (·.1 ≠ purpose)⟩

def create (timers : Timers) (purpose : Timer.Purpose) : Timers :=
  timers.set purpose {}

end Timers
end NcpHost
