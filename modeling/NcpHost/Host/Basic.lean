import NcpHost.Bootloader.Console
import NcpHost.Settings.Basic

/-! The host: it owns the port, both engines that can drive it, and the queue of
commands. One engine at a time has the port: the link while the adapter runs its
application, the console while it sits in the bootloader. One command at a time
is in flight. This module holds the state and the steps that send. -/
namespace NcpHost

inductive Engine where
  | link
  | console
  deriving DecidableEq, Repr

structure Host where
  world : World
  link : Link := {}
  console : Bootloader.Console := {}
  /-- The host has the port. -/
  opened : Bool := false
  mode : Mode := .unknown
  /-- The engine that has the port. -/
  active : Engine := .link
  /-- Commands not answered yet, oldest first. -/
  queue : List Ezsp.Command := []
  /-- The oldest command is in flight. -/
  waiting : Bool := false
  /-- The sequence number of the next command sent for the first time. -/
  nextSequence : UInt8 := 0
  /-- Resets handed to the port; the count wraps. -/
  resetAttempts : UInt32 := 0
  /-- Upload firmware if the first reset fails. -/
  forceUpgrade : Bool := false
  /-- The menu entry to choose once the prompt shows. -/
  pendingEntry : Option MenuEntry := none
  /-- The answer to a launch command hands the port to the console. -/
  launchPending : Bool := false
  deriving DecidableEq, Repr

namespace Host

def ofSettings (settings : Settings) (world : World) : Host where
  world
  link := { timeouts := settings.timeouts, policy := settings.policy }
  console := { quietMs := settings.bootloaderQuietMs.toNat }
  forceUpgrade := settings.forceUpgradeOnInitTimeout

def note (host : Host) (note : Note) : Host :=
  { host with world := host.world.note note }

def report (host : Host) (event : Event) : Host :=
  { host with world := host.world.report event }

def record (host : Host) (effect : Effect) : Host :=
  { host with world := host.world.record effect }

/-- A change of mode is reported, staying is not. -/
def setMode (host : Host) (mode : Mode) : Host :=
  if host.mode = mode then host
  else { host with mode }.report (.modeChanged host.mode mode)

/-- The link waits for nothing. -/
def endWait (host : Host) : Host :=
  let (link, world) := host.link.endWait host.world
  { host with link, world }

/-- Logs the failure of something nobody asked for. -/
def attempt (undertaking : Undertaking) : Except HostError Unit × Host → Host
  | (.ok (), host) => host
  | (.error error, host) => host.note (.failed undertaking error)

/-- Asks the adapter to restart; no command is in flight then. -/
def sendReset (host : Host) : Except HostError Unit × Host :=
  if host.opened then
    let (result, link, world) := host.link.reset host.world
    (result.mapError .port,
     { host with link, world, resetAttempts := host.resetAttempts + 1, waiting := false })
  else (.error .notOpen, host)

/-- Sends the oldest command unless one is in flight or the link is not there to
carry it. A command keeps the sequence number of its first transmission. -/
def sendNext (host : Host) : Except HostError Unit × Host :=
  if host.waiting ∨ host.active ≠ .link ∨ ¬ host.link.connected then (.ok (), host)
  else if ¬ host.opened then (.error .notOpen, host)
  else
    match host.queue with
    | [] => (.ok (), host)
    | command :: later =>
      let sequence := command.sequence.getD host.nextSequence
      let host := { host with
        queue := { command with sequence := some sequence } :: later
        nextSequence :=
          if command.sequence.isSome then host.nextSequence else host.nextSequence + 1 }
      let payload := Ezsp.Frame.encode sequence command.id command.parameters
      match host.link.send host.world payload with
      | (.ok (), link, world) => (.ok (), { host with link, world, waiting := true })
      | (.error error, link, world) => (.error (.port error), { host with link, world })

/-- Queues a command and sends it if its turn has come. -/
def submit (host : Host) (id : UInt8) (parameters : List UInt8) :
    Except HostError Unit × Host :=
  if host.opened then
    let command : Ezsp.Command := { id, parameters }
    ({ host with queue := host.queue ++ [command] }.record (.queued command)).sendNext
  else (.error .notOpen, host)

/-- Takes the port and starts the handshake. -/
def openPort (host : Host) : Except HostError Unit × Host :=
  { (host.note (.opening host.world.port.name)).record .handedBack with
    opened := true
    active := .link }.sendReset

/-- Stops both timers and gives the port back; tells whether there was one. -/
def closePort (host : Host) : Bool × Host :=
  let idle := host.endWait.record .handedBack
  (host.opened,
   { idle with
     console := idle.console.detach
     active := .link
     waiting := false
     opened := false })

end Host
end NcpHost
