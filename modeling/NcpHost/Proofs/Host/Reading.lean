import NcpHost.Proofs.Bootloader.Text
import NcpHost.Proofs.Host.ReadAhead

/-! What comes of bytes in two steps: the engine that has the port reads them all, and then
the host handles what it is told of them. -/
namespace NcpHost
namespace Host

/-- The host once its engine has read bytes, before anything is done about them. -/
def read (host : Host) (bytes : List UInt8) : Host :=
  let host := host.record (.received bytes)
  match host.active with
  | .link =>
    let (_, link, world) := host.link.receive host.world bytes
    { host with link, world }
  | .console =>
    let reading := host.console.receive host.world.now bytes
    { host with console := reading.console, world := host.world.notes reading.notes }

variable {host : Host}

theorem read_link (active : host.active = .link) (bytes : List UInt8) :
    host.read bytes = { host with
      link := (host.link.receive (host.record (.received bytes)).world bytes).2.1
      world := (host.link.receive (host.record (.received bytes)).world bytes).2.2 } := by
  simp only [read, record, active]

theorem read_console (active : host.active = .console) (bytes : List UInt8) :
    host.read bytes = { host with
      console := (host.console.receive host.world.now bytes).console
      world := (host.record (.received bytes)).world.notes
        (host.console.receive host.world.now bytes).notes } := by
  simp only [read, record, active]
  rfl

/-- While bytes are read there are notes, and a wait may end. -/
theorem adds_read {P : Effect → Prop} (host : Host) (bytes : List UInt8)
    (noted : ∀ note : Note, note.IsRoutine → P (.noted note)) (ended : P .waitEnded) :
    World.Adds P (host.record (.received bytes)).world (host.read bytes).world := by
  cases active : host.active with
  | link =>
    rw [read_link active]
    exact Link.adds_receive _ _ bytes noted ended
  | console =>
    rw [read_console active]
    refine (World.Adds.refl _).notes _ fun note told => noted note ?_
    obtain ⟨version, rfl⟩ := Bootloader.Console.detected_of_receive told
    trivial

/-- Nothing but the engines and the journal has changed, and nothing was reported. -/
structure Reads (host after : Host) : Prop where
  rest : after = { host with link := after.link, console := after.console, world := after.world }
  events : after.world.events = host.world.events
  port : after.world.port = host.world.port

theorem Reads.refl (host : Host) : host.Reads host := ⟨rfl, rfl, rfl⟩

theorem Reads.trans {after last : Host} (first : host.Reads after) (second : after.Reads last) :
    host.Reads last where
  rest := by
    rw [second.rest, first.rest]
  events := second.events.trans first.events
  port := second.port.trans first.port

theorem reads_read (host : Host) (bytes : List UInt8) : host.Reads (host.read bytes) := by
  have received : World.Adds (fun effect => effect.event? = none) host.world
      (host.record (.received bytes)).world := (World.Adds.refl _).record rfl
  have events : (host.read bytes).world.events = host.world.events :=
    (received.trans (adds_read host bytes (fun _ _ => rfl) rfl)).events
  cases active : host.active with
  | link =>
    refine ⟨?_, events, ?_⟩
    · rw [read_link active]
    · rw [read_link active, Link.receive_world]
      rfl
  | console =>
    refine ⟨?_, events, ?_⟩
    · rw [read_console active]
    · rw [read_console active]
      rfl

theorem Alike.reads {L L' : Endpoint → Endpoint → Prop} {split whole split' whole' : Host}
    (alike : Alike L split whole) (one : split.Reads split') (other : whole.Reads whole')
    (stage : whole'.console.stage = split'.console.stage)
    (version : whole'.console.version = split'.console.version)
    (link : L' split'.link.endpoint whole'.link.endpoint)
    (carried : split.waiting = true → split'.link.connected = true) : Alike L' split' whole' where
  events := by rw [one.events, other.events, alike.events]
  queue := by rw [one.rest, other.rest]; exact alike.queue
  waiting := by rw [one.rest, other.rest]; exact alike.waiting
  mode := by rw [one.rest, other.rest]; exact alike.mode
  active := by rw [one.rest, other.rest]; exact alike.active
  opened := by rw [one.rest, other.rest]; exact alike.opened
  nextSequence := by rw [one.rest, other.rest]; exact alike.nextSequence
  launchPending := by rw [one.rest, other.rest]; exact alike.launchPending
  pendingEntry := by rw [one.rest, other.rest]; exact alike.pendingEntry
  stage := stage
  version := version
  link := link
  carried inFlight := carried (by rw [one.rest] at inFlight; exact inFlight)
  splitPort := one.port ▸ alike.splitPort
  wholePort := other.port ▸ alike.wholePort

theorem endpoint_read (active : host.active = .link) (bytes : List UInt8) :
    (host.read bytes).link.endpoint = (host.link.endpoint.receive bytes).endpoint := by
  rw [read_link active, Link.receive_endpoint]

theorem connected_read (active : host.active = .link) (bytes : List UInt8) :
    (host.read bytes).link.connected = true ↔
      host.link.connected = true ∨ ∃ code, .resetAck code ∈ host.link.endpoint.frames bytes := by
  rw [Link.connected, endpoint_read active, Endpoint.connected_receive]
  rfl

theorem console_read (active : host.active = .link) (bytes : List UInt8) :
    (host.read bytes).console = host.console := by
  rw [read_link active]

theorem link_read (active : host.active = .console) (bytes : List UInt8) :
    (host.read bytes).link = host.link := by
  rw [read_console active]

theorem reading_read (active : host.active = .console) (bytes : List UInt8) :
    (host.read bytes).console = (host.console.receive host.world.now bytes).console := by
  rw [read_console active]

theorem handleLinkEvent_idle {event : LinkEvent} (idle : event.isIdle = true) (host : Host) :
    host.handleLinkEvent event = host := by
  cases event with
  | payload | connected | nakObserved | resetFailed => cases idle
  | ackObserved | ackMismatch | resetReceived => rfl
  | ackTimeout action =>
    cases action with
    | logOnly => rfl
    | retransmit => cases idle

theorem foldl_handleLinkEvent_filter (events : List LinkEvent) (host : Host) :
    (events.filter (!·.isIdle)).foldl handleLinkEvent host = events.foldl handleLinkEvent host := by
  induction events generalizing host with
  | nil => rfl
  | cons event later ih =>
    cases idle : event.isIdle with
    | true => simp [idle, ih, handleLinkEvent_idle idle host]
    | false => simp [idle, ih]

theorem told_receive (link : Link) (world : World) (bytes : List UInt8) :
    (link.receive world bytes).1.filter (!·.isIdle) =
      Wire.Frame.told link.connected (link.endpoint.frames bytes) := by
  rw [Link.receive_events, (Endpoint.receive_frames link.endpoint bytes).1, Sequence.told_signals]
  rfl

theorem receive_signals (active : host.active = .link) (bytes : List UInt8) :
    host.receive bytes =
      ((host.link.endpoint.receive bytes).signals.filterMap Signal.event?).foldl handleLinkEvent
        (host.read bytes) := by
  rw [← host.link.receive_events (host.record (.received bytes)).world, read_link active]
  simp only [receive, record, active]

theorem receive_link (active : host.active = .link) (bytes : List UInt8) :
    host.receive bytes =
      (Wire.Frame.told host.link.connected (host.link.endpoint.frames bytes)).foldl
        handleLinkEvent (host.read bytes) := by
  rw [← told_receive host.link host.world, foldl_handleLinkEvent_filter, receive_signals active,
    Link.receive_events]

theorem receive_console (active : host.active = .console) (bytes : List UInt8) :
    host.receive bytes =
      (host.console.receive host.world.now bytes).events.foldl handleConsoleEvent
        (host.read bytes) := by
  rw [read_console active]
  simp only [receive, record, active]
  rfl

end Host
end NcpHost
