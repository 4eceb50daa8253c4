import NcpHost.Host.Basic

/-! How the host answers what its engines tell it: acknowledgements, responses,
requests to resend, timeouts, and the hand-over of the port between link and
console. -/
namespace NcpHost
namespace Host

/-- Gives the port to the console, which is to choose `goal` from the menu. Only
the way back to the application shows in the mode before the choice is made. -/
def enterBootloader (host : Host) (goal : MenuEntry) : Host :=
  let host := { host.endWait.record (.handedOver goal) with
    active := .console
    waiting := false
    pendingEntry := some goal }
  let host := if goal = .run then host.setMode goal.mode else host
  { host with console := host.console.reset host.world.now }

/-- Chooses to run the application and starts the handshake with it. -/
def leaveBootloader (host : Host) : Host :=
  if host.opened then
    let (result, console, world) := host.console.choose host.world .run
    let host := { host with console, world }
    match result with
    | .error error => host.note (.leavingFailed error)
    | .ok () =>
      let host := { host.record .handedBack with
        console := host.console.detach
        active := .link }
      attempt .resetAfterLeaving (host.setMode .application).sendReset
  else host

/-- Chooses the firmware upload. -/
def startUpload (host : Host) : Host :=
  if host.opened then
    let (result, console, world) := host.console.choose host.world .upload
    let host := { host with console, world }
    match result with
    | .error error => host.note (.uploadFailed error)
    | .ok () => host.setMode .upgrading
  else host

def acknowledge (host : Host) : Host :=
  if host.opened then
    let (result, link, world) := host.link.acknowledge host.world
    let host := { host with link, world }
    match result with
    | .error error => host.note (.ackFailed error)
    | .ok () => host
  else host

/-- `response` answers the oldest command, `command`; `later` are the others. The
answer shows that the command arrived, whatever was acknowledged. -/
def complete (host : Host) (response : Ezsp.Frame) (command : Ezsp.Command)
    (later : List Ezsp.Command) : Host :=
  let host := { host.endWait.record (.answered command response) with
    queue := later
    waiting := false }
  if response.commandId = Ezsp.launchBootloader ∧ host.launchPending then
    { host with launchPending := false }.enterBootloader .upload
  else attempt .sendNext host.sendNext

/-- A frame with the id of the command in flight is its response; any other came
of the adapter's own accord. -/
def dispatch (host : Host) (frame : Ezsp.Frame) : Host :=
  let unsolicited := host.note (.unsolicited frame.commandId frame.sequence)
  match host.queue with
  | [] => unsolicited
  | command :: later =>
    if host.waiting ∧ command.id = frame.commandId then host.complete frame command later
    else unsolicited

/-- The acknowledgement goes out before anything else. -/
def handlePayload (host : Host) (payload : List UInt8) : Host :=
  let host := host.acknowledge
  match Ezsp.Frame.decode payload with
  | .error error => host.note (.malformedCommandFrame error)
  | .ok frame =>
    (host.report (.frameReceived frame.commandId frame.sequence frame.parameters)).dispatch frame

/-- Only the first failed reset leads to the bootloader; later ones mean that
nothing answers. -/
def handleResetFailed (host : Host) : Host :=
  if host.resetAttempts ≤ 1 then
    let goal : MenuEntry := if host.forceUpgrade then .upload else .run
    (host.note (.probingAfterReset goal.mode)).enterBootloader goal
  else (host.note (.adapterSilent host.resetAttempts.toNat)).report .adapterSilent

/-- Sends the command in flight again, as if it had not been sent. -/
def resend (host : Host) (undertaking : Undertaking) : Host :=
  attempt undertaking { host with waiting := false }.sendNext

def handleConnected (host : Host) (code : Wire.ResetCode) : Host :=
  let host := ((host.note (.linkUp code)).setMode .application).report .adapterReady
  let host := if host.waiting then host.note .resumingInterrupted else host
  host.resend .flushQueue

def handleLinkEvent (host : Host) : LinkEvent → Host
  | .payload data => host.handlePayload data
  | .connected code => host.handleConnected code
  | .nakObserved number => (host.note (.nakReceived number)).resend .resendAfterNak
  | .ackTimeout .retransmit =>
    if host.waiting then
      let host := host.note .retransmitting
      { host with link := host.link.prepareResend }.resend .retransmit
    else host
  | .resetFailed => host.handleResetFailed
  | .ackTimeout .logOnly | .ackObserved _ | .ackMismatch .. | .resetReceived => host

/-- The pending entry is chosen once; a prompt that nobody waits for is only
reported. -/
def handleConsoleEvent (host : Host) : Bootloader.ConsoleEvent → Host
  | .promptDetected =>
    let host := host.report (.promptSeen host.console.version)
    let settled := { host with pendingEntry := none }
    match host.pendingEntry with
    | some .run => settled.leaveBootloader
    | some .upload => settled.startUpload
    | none => settled
  | .transferReady => host.report .transferReady

/-- Gives bytes to the engine that has the port. That engine reads them all
before the first of its events is handled. -/
def receive (host : Host) (bytes : List UInt8) : Host :=
  let host := host.record (.received bytes)
  match host.active with
  | .link =>
    let (events, link, world) := host.link.receive host.world bytes
    events.foldl handleLinkEvent { host with link, world }
  | .console =>
    let reading := host.console.receive host.world.now bytes
    reading.events.foldl handleConsoleEvent
      { host with console := reading.console, world := host.world.notes reading.notes }

/-- Collects an expiry of the acknowledgement timer. -/
def pollLink (host : Host) : Host :=
  let (event, link, world) := host.link.poll host.world
  let host := { host with link, world }
  event.elim host host.handleLinkEvent

/-- Lets the console, if it has the port, collect an expiry of its timer. -/
def pollConsole (host : Host) : Host :=
  if host.active = .console ∧ host.opened then
    let (result, console, world) := host.console.poll host.world
    let host := { host with console, world }
    match result with
    | .error error => host.note (.probeFailed error)
    | .ok _ => host
  else host

def poll (host : Host) : Host := host.pollLink.pollConsole

/-- The menu entry that a requested mode amounts to, if the request is legal: the
bootloader is left only from the bootloader, an upload is started only from
outside it. -/
def entryFor (host : Host) : Mode → Option MenuEntry
  | .leaving =>
    if host.mode.isBootloader ∨ host.active = .console then some .run else none
  | .upgrading =>
    if host.mode = .unknown ∨ host.mode = .application then some .upload else none
  | .unknown | .application => none

/-- Asks for another mode. From a running application the upload starts with a
command that launches the bootloader. -/
def switchMode (host : Host) (requested : Mode) : Except HostError Unit × Host :=
  match host.entryFor requested with
  | none =>
    (.error (.illegalSwitch host.mode requested),
     host.note (.switchRejected host.mode requested))
  | some entry =>
    if ¬ host.opened then (.error .notOpen, host)
    else if entry = .upload ∧ host.active = .link ∧ host.link.connected then
      { host.note .launching with launchPending := true }.submit
        Ezsp.launchBootloader [Ezsp.normalMode]
    else (.ok (), host.enterBootloader entry)

end Host
end NcpHost
