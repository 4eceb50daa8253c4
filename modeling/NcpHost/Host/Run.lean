import NcpHost.Host.Exchange
import NcpHost.Link.Run

/-! Histories of a host: calls of its user, bytes that arrive, timers that run
out, and whatever happens to the port, in any order. -/
namespace NcpHost
namespace Host

inductive Operation where
  | openPort
  | closePort
  | submit (id : UInt8) (parameters : List UInt8)
  | receive (bytes : List UInt8)
  | switchMode (requested : Mode)
  /-- Upload firmware if the first reset fails. -/
  | forceUpgrade
  | fireLink
  | fireConsole
  | poll
  | port (change : PortChange)
  deriving DecidableEq, Repr

inductive Answer where
  | done
  | result (outcome : Option HostError)
  | flag (value : Bool)
  deriving DecidableEq, Repr

/-- The answer to an operation that can fail. -/
def answered (outcome : Except HostError Unit × Host) : Answer × Host :=
  (.result (Link.failure? outcome.1), outcome.2)

def apply (host : Host) : Operation → Answer × Host
  | .openPort => answered host.openPort
  | .closePort => (.flag host.closePort.1, host.closePort.2)
  | .submit id parameters => answered (host.submit id parameters)
  | .receive bytes => (.done, host.receive bytes)
  | .switchMode requested => answered (host.switchMode requested)
  | .forceUpgrade => (.done, { host with forceUpgrade := true })
  | .fireLink =>
    (.flag host.link.timer.running, { host with link.timer := host.link.timer.fire })
  | .fireConsole =>
    (.flag host.console.timer.running, { host with console.timer := host.console.timer.fire })
  | .poll => (.done, host.poll)
  | .port change => (.done, { host with world := host.world.change change })

def step (host : Host) (operation : Operation) : Host := (host.apply operation).2

/-- The state that a history leaves. -/
def run (host : Host) (history : List Operation) : Host := history.foldl step host

@[simp] theorem run_nil (host : Host) : host.run [] = host := rfl

@[simp] theorem run_cons (host : Host) (operation : Operation) (later : List Operation) :
    host.run (operation :: later) = (host.step operation).run later := rfl

theorem run_append (host : Host) (front back : List Operation) :
    host.run (front ++ back) = (host.run front).run back :=
  List.foldl_append

end Host
end NcpHost
