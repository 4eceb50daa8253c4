import NcpHost.Bootloader.Console
import NcpHost.Link.Run

/-! Histories of the bootloader's console. -/
namespace NcpHost.Bootloader
namespace Console

inductive Operation where
  | reset
  | detach
  | fire
  | poll
  | receive (bytes : List UInt8)
  | choose (entry : MenuEntry)
  | port (change : PortChange)
  deriving DecidableEq, Repr

inductive Answer where
  | done
  | flag (value : Bool)
  | pollFailed (error : PortError)
  | events (events : List ConsoleEvent)
  | result (outcome : Option ConsoleError)
  deriving DecidableEq, Repr

def apply (console : Console) (world : World) : Operation → Answer × Console × World
  | .reset => (.done, console.reset world.now, world)
  | .detach => (.done, console.detach, world)
  | .fire => (.flag console.timer.running, { console with timer := console.timer.fire }, world)
  | .poll =>
    match console.poll world with
    | (.ok sent, console, world) => (.flag sent, console, world)
    | (.error error, console, world) => (.pollFailed error, console, world)
  | .receive bytes =>
    let reading := console.receive world.now bytes
    (.events reading.events, reading.console, world.notes reading.notes)
  | .choose entry =>
    match console.choose world entry with
    | (.ok (), console, world) => (.result none, console, world)
    | (.error error, console, world) => (.result error, console, world)
  | .port change => (.done, console, world.change change)

/-- The state that a history leaves. -/
def run (console : Console) (world : World) (history : List Operation) : Console × World :=
  history.foldl (fun state operation => (state.1.apply state.2 operation).2) (console, world)

end Console
end NcpHost.Bootloader
