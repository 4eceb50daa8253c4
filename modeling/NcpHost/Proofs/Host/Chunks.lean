import NcpHost.Proofs.Bootloader.Text
import NcpHost.Proofs.Host.Reading
import NcpHost.Proofs.Host.Reports
import NcpHost.Proofs.Host.Wait

/-! The pieces in which the port hands bytes over. A piece is read to its end by the
engine that has the port when it comes, and only then is anything done about it; so a cut
shows where what is done changes how the bytes after it are read. `Harmless` names those
places; with the cut anywhere else nobody can tell the pieces from the whole. -/
namespace NcpHost
namespace Host

/-- As much of a host as its user and the peer can tell. -/
structure View where
  events : List Event
  queue : List Ezsp.Command
  waiting : Bool
  mode : Mode
  active : Engine
  sequence : Sequence
  deriving DecidableEq, Repr

def view (host : Host) : View where
  events := host.world.events
  queue := host.queue
  waiting := host.waiting
  mode := host.mode
  active := host.active
  sequence := host.link.endpoint.sequence

/-- The engine that has the port finds nothing in the bytes that concerns the host. -/
def Deaf (host : Host) (bytes : List UInt8) : Prop :=
  match host.active with
  | .link => ∀ event ∈ (host.link.receive host.world bytes).1, event.isIdle
  | .console => (host.console.receive host.world.now bytes).events = []

/-- A cut that makes no difference. -/
structure Harmless (host : Host) (front back : List UInt8) : Prop where
  /-- If the port changes hands or the entry to choose is settled, then neither the engine
  that read the first piece nor the one that reads the second finds anything in it. -/
  moved :
    (host.receive front).active ≠ host.active ∨
      (host.receive front).pendingEntry ≠ host.pendingEntry →
    (host.read front).Deaf back ∧ (host.receive front).Deaf back
  /-- No NAK follows the cut if the first piece has a DATA frame sent. -/
  renumbered : host.active = .link →
    (host.receive front).link.endpoint.tally.dataSent ≠ host.link.endpoint.tally.dataSent →
    ∀ number, .nak number ∉ (host.read front).link.endpoint.frames back
  /-- A NAK that finds the link down and a command queued is not cut off from the frame
  that brings the link up. -/
  raised : host.active = .link → (∃ number, .nak number ∈ host.link.endpoint.frames front) →
    (host.read front).link.connected = false → host.queue ≠ [] →
    ∀ code, .resetAck code ∉ (host.read front).link.endpoint.frames back
  /-- The receiver counts as ready by the last byte of a piece. -/
  announced : host.active = .console → host.console.stage = .awaitingReceiver →
    front.getLast? = some Bootloader.receiverReady →
    back = [] ∨ back.getLast? = some Bootloader.receiverReady
  /-- A version line is not cut once it is too long to be kept. -/
  inLine : host.active = .console → (host.console.follow front).console.stage = .headerSeen →
    Bootloader.maxBuffer < (host.console.follow front).console.buffer.length →
    Bootloader.newline ∉ back.takeWhile (· ≠ 0)

/-- Every cut is harmless, given the pieces before it and all that comes after it. -/
def Separable (host : Host) (first : List UInt8) : List (List UInt8) → Prop
  | [] => True
  | next :: later =>
    host.Harmless first (next :: later).flatten ∧ (host.receive first).Separable next later

theorem Alike.view {split whole : Host} (alike : Alike Endpoint.SameNumbers split whole) :
    whole.view = split.view := by
  simp only [Host.view, View.mk.injEq]
  exact ⟨alike.events, alike.queue, alike.waiting, alike.mode, alike.active, alike.link⟩

variable {host : Host} {bytes front back : List UInt8}

theorem told_of_deaf (active : host.active = .link) (deaf : host.Deaf bytes) :
    Wire.Frame.told host.link.connected (host.link.endpoint.frames bytes) = [] := by
  rw [← told_receive host.link host.world, List.filter_eq_nil_iff]
  simp only [Deaf, active] at deaf
  intro event member
  simp [deaf event member]

/-- Bytes that an engine is deaf to change nothing that can be told. -/
theorem view_receive_of_deaf (deaf : host.Deaf bytes) : (host.receive bytes).view = host.view := by
  have reads := reads_read host bytes
  cases active : host.active with
  | link =>
    have silent := told_of_deaf active deaf
    have numbers : (host.read bytes).link.endpoint.sequence = host.link.endpoint.sequence := by
      rw [endpoint_read active, (Endpoint.receive_frames _ _).2,
        Sequence.foldl_accept_of_told_nil _ silent]
    rw [receive_link active, silent, List.foldl_nil, view, reads.events, numbers, reads.rest]
    rfl
  | console =>
    simp only [Deaf, active] at deaf
    rw [receive_console active, deaf, List.foldl_nil, view, reads.events, read_console active]
    rfl

/-- Reading alone neither hands the port over nor chooses. -/
theorem unmoved_of_read (nothing : host.receive front = host.read front) :
    ¬ ((host.receive front).active ≠ host.active ∨
      (host.receive front).pendingEntry ≠ host.pendingEntry) := by
  rw [nothing, (reads_read host front).rest]
  rintro (moved | chosen)
  · exact moved rfl
  · exact chosen rfl

/-- The link reads the second piece, of which the other run knows already. -/
theorem Alike.catchUp {pending : Endpoint} {split whole : Host}
    (alike : Alike (Lag pending (pending.frames back)) split whole) (active : split.active = .link)
    (renumbered : (∀ number, .nak number ∉ pending.frames back) ∨
      split.link.endpoint.tally.dataSent = pending.tally.dataSent) :
    Alike Endpoint.SameNumbers (split.receive back)
      ((Wire.Frame.told pending.connected (pending.frames back)).foldl
        Host.handleLinkEvent whole) := by
  have frames : split.link.endpoint.frames back = pending.frames back :=
    Endpoint.frames_congr alike.link.buffer alike.link.corrupt back
  have up : split.link.connected = pending.connected := alike.link.connected
  have numbers : whole.link.endpoint.sequence = (split.read back).link.endpoint.sequence := by
    rw [alike.link.numbers renumbered, endpoint_read active, (Endpoint.receive_frames _ _).2,
      frames]
  have read : Alike (Lag (split.read back).link.endpoint []) (split.read back) whole := by
    refine alike.reads (reads_read _ _) (.refl _) ?_ ?_ (.start _ _ _ numbers) ?_
    · rw [console_read active, alike.stage]
    · rw [console_read active, alike.version]
    · exact fun inFlight => (connected_read active back).mpr (.inl (alike.carried inFlight))
  rw [receive_link active, frames, up]
  refine Alike.caughtUp (read.foldl_handleLinkEvent (fun _ => id) ?_ ?_) rfl
  · rw [← frames]
    exact fun code among => (connected_read active back).mpr (.inr ⟨code, among⟩)
  · exact fun number among => .inr (.inr (by simp))

section Link

variable (active : host.active = .link) (reliable : host.world.port.Reliable)
  (carried : host.waiting = true → host.link.connected = true)
include active

theorem sequence_read_append (front back : List UInt8) :
    (host.read (front ++ back)).link.endpoint.sequence =
      ((host.read front).link.endpoint.frames back).foldl Sequence.accept
        (host.read front).link.endpoint.sequence := by
  rw [endpoint_read active, endpoint_read active, (Endpoint.receive_frames _ (front ++ back)).2,
    (Endpoint.receive_frames _ front).2, Endpoint.frames_append, List.foldl_append]

theorem told_append (front back : List UInt8) :
    Wire.Frame.told host.link.connected (host.link.endpoint.frames (front ++ back)) =
      Wire.Frame.told host.link.connected (host.link.endpoint.frames front) ++
        Wire.Frame.told (host.read front).link.connected
          ((host.read front).link.endpoint.frames back) := by
  have read := (Endpoint.receive_frames host.link.endpoint front).2
  rw [Link.connected, Endpoint.connected, Endpoint.frames_append,
    Sequence.told_append host.link.endpoint.sequence, ← read, Link.connected,
    endpoint_read active front]
  rfl

include reliable carried

/-- The other run has read more and handles what was told of the first piece. -/
theorem alike_front {ahead : List Wire.Frame} {whole : Host} (reads : host.Reads whole)
    (console : whole.console = host.console)
    (numbers : whole.link.endpoint.sequence =
      ahead.foldl Sequence.accept (host.read front).link.endpoint.sequence)
    (steady : ∀ number, .nak number ∈ host.link.endpoint.frames front →
      Lag.Steady (host.read front).link.endpoint ahead host.queue) :
    Alike (Lag (host.read front).link.endpoint ahead) (host.receive front)
      ((Wire.Frame.told host.link.connected (host.link.endpoint.frames front)).foldl
        handleLinkEvent whole) := by
  have read : Alike (Lag (host.read front).link.endpoint ahead) (host.read front) whole := by
    have same : Alike (fun _ _ => True) host host := .refl reliable carried trivial
    refine same.reads (reads_read _ _) reads ?_ ?_ (.start _ _ _ numbers) ?_
    · rw [console, console_read active]
    · rw [console, console_read active]
    · exact fun inFlight => (connected_read active front).mpr (.inl (carried inFlight))
  have queue : (host.read front).queue = host.queue := by rw [(reads_read host front).rest]
  rw [receive_link active]
  exact read.foldl_handleLinkEvent (fun _ => id)
    (fun code among => (connected_read active front).mpr (.inr ⟨code, among⟩)) (queue ▸ steady)

theorem pieces_link (harmless : host.Harmless front back) :
    ((host.receive front).receive back).view = (host.receive (front ++ back)).view := by
  have handled := alike_front active reliable carried (reads_read host (front ++ back))
    (console_read active _) (sequence_read_append active front back) fun number among => by
      by_cases up : (host.read front).link.connected = true
      · exact .inl up
      · by_cases empty : host.queue = []
        · exact .inr (.inl empty)
        · have down := Bool.eq_false_iff.mpr up
          exact .inr (.inr (harmless.raised active ⟨number, among⟩ down empty))
  rw [receive_link active (front ++ back), told_append active, List.foldl_append]
  -- Where the link keeps the port it goes on to read the second piece, with numbers that
  -- the first has changed; else no engine that could read it has anything to tell.
  by_cases same : (host.receive front).active = host.active
  · have link : (host.receive front).active = .link := same.trans active
    refine (handled.catchUp link ?_).view.symm
    by_cases sent : (host.receive front).link.endpoint.tally.dataSent =
        host.link.endpoint.tally.dataSent
    · rw [sent, endpoint_read active, Endpoint.dataSent_receive]
      exact .inr rfl
    · exact .inl (harmless.renumbered active sent)
  · obtain ⟨deaf, also⟩ := harmless.moved (.inl same)
    have still : (host.read front).active = .link := by rw [(reads_read host front).rest, active]
    have silent := told_of_deaf still deaf
    rw [silent, List.foldl_nil, view_receive_of_deaf also]
    exact (handled.caughtUp silent).view.symm

theorem reliable_receive_link (bytes : List UInt8) :
    (host.receive bytes).world.port.Reliable := by
  have nothing : (host.read bytes).link.endpoint.sequence =
      [].foldl Sequence.accept (host.read bytes).link.endpoint.sequence := rfl
  have handled := alike_front active reliable carried (reads_read host bytes)
    (console_read active _) nothing fun _ _ => .inr (.inr (by simp))
  exact handled.splitPort

end Link

section Console

/-- The console is left to itself unless an entry is chosen. -/
theorem foldl_handleConsoleEvent_settled (settled : host.pendingEntry = none)
    (events : List Bootloader.ConsoleEvent) :
    (events.foldl handleConsoleEvent host).pendingEntry = none ∧
      (events.foldl handleConsoleEvent host).console = host.console := by
  induction events generalizing host with
  | nil => exact ⟨settled, rfl⟩
  | cons event later ih =>
    have left : (host.handleConsoleEvent event).pendingEntry = none ∧
        (host.handleConsoleEvent event).console = host.console := by
      cases event with
      | transferReady => exact ⟨settled, rfl⟩
      | promptDetected => simp [handleConsoleEvent, report, settled]
    obtain ⟨still, console⟩ := ih left.1
    exact ⟨still, console.trans left.2⟩

theorem foldl_handleConsoleEvent_console (events : List Bootloader.ConsoleEvent)
    (unchosen : (events.foldl handleConsoleEvent host).pendingEntry = host.pendingEntry) :
    (events.foldl handleConsoleEvent host).console = host.console := by
  induction events generalizing host with
  | nil => rfl
  | cons event later ih =>
    cases event with
    | transferReady => exact ih unchosen
    | promptDetected =>
      have settled := pendingEntry_prompt host
      rw [List.foldl_cons] at unchosen
      have pending := (foldl_handleConsoleEvent_settled settled later).1
      exact (foldl_handleConsoleEvent_settled (unchosen.symm.trans pending) _).2

variable (active : host.active = .console)
include active

theorem console_receive
    (unchosen : (host.receive front).pendingEntry = host.pendingEntry) :
    (host.receive front).console = (host.console.receive host.world.now front).console := by
  have before : (host.read front).pendingEntry = host.pendingEntry := by
    rw [(reads_read host front).rest]
  rw [receive_console active, ← before] at unchosen
  rw [receive_console active, foldl_handleConsoleEvent_console _ unchosen, reading_read active]

variable (reliable : host.world.port.Reliable)
  (carried : host.waiting = true → host.link.connected = true) {afterwards : Nat}
  (joins : Bootloader.Console.Joins (host.console.receive host.world.now front)
    ((host.console.receive host.world.now front).console.receive afterwards back)
    (host.console.receive host.world.now (front ++ back)))
include reliable carried

section
include joins

/-- If the first piece told something, what it told is handled alike whether the second has
been read or not. -/
theorem alike_told (told : (host.console.receive host.world.now front).events ≠ []) :
    Alike Endpoint.SameNumbers (host.receive front)
      ((host.console.receive host.world.now front).events.foldl handleConsoleEvent
        (host.read (front ++ back))) := by
  have same : Alike Endpoint.SameNumbers host host := .refl reliable carried rfl
  have read : Alike Endpoint.SameNumbers (host.read front) (host.read (front ++ back)) := by
    refine same.reads (reads_read _ _) (reads_read _ _) ?_ ?_ ?_ ?_
    · rw [reading_read active, reading_read active, (joins.told told).1]
    · rw [reading_read active, reading_read active, (joins.told told).2]
    · rw [link_read active, link_read active]
      rfl
    · rwa [link_read active]
  rw [receive_console active]
  exact read.foldl_handleConsoleEvent _

/-- The console, which was left to itself, reads the second piece. If the first told
nothing, stage and version need not agree before that. -/
theorem alike_back (later : afterwards = (host.receive front).world.now)
    (stays : (host.receive front).active = .console)
    (unchosen : (host.receive front).pendingEntry = host.pendingEntry) :
    Alike Endpoint.SameNumbers ((host.receive front).read back)
      ((host.console.receive host.world.now front).events.foldl handleConsoleEvent
        (host.read (front ++ back))) := by
  have read : ((host.receive front).read back).console =
      ((host.console.receive host.world.now front).console.receive afterwards back).console := by
    rw [reading_read stays, console_receive active unchosen, later]
  by_cases told : (host.console.receive host.world.now front).events = []
  · have same : Alike Endpoint.SameNumbers host host := .refl reliable carried rfl
    have received := receive_console active front
    rw [told, List.foldl_nil] at received ⊢
    refine same.reads (received ▸ (reads_read host front).trans (reads_read _ back))
      (reads_read _ _) ?_ ?_ ?_ ?_
    · rw [read, reading_read active, joins.stage]
    · rw [read, reading_read active, joins.version]
    · rw [link_read stays, received, link_read active, link_read active]
      rfl
    · rwa [link_read stays, received, link_read active]
  · have alike := alike_told active reliable carried joins told
    obtain ⟨stage, version⟩ := joins.told told
    refine alike.reads (reads_read _ back) (.refl _) ?_ ?_ ?_ ?_
    · rw [alike.stage, console_receive active unchosen, read, ← joins.stage, stage]
    · rw [alike.version, console_receive active unchosen, read, ← joins.version, version]
    · rw [link_read stays]
      exact alike.link
    · rw [link_read stays]
      exact alike.carried

end

theorem pieces_console (harmless : host.Harmless front back) :
    ((host.receive front).receive back).view = (host.receive (front ++ back)).view := by
  have joins (afterwards : Nat) := Bootloader.Console.joins_receive host.console host.world.now
    afterwards front back (harmless.announced active) (harmless.inLine active)
  by_cases moved : (host.receive front).active ≠ host.active ∨
      (host.receive front).pendingEntry ≠ host.pendingEntry
  · obtain ⟨deaf, also⟩ := harmless.moved moved
    -- Something was told, or nothing would have moved.
    have told : (host.console.receive host.world.now front).events ≠ [] := by
      intro nothing
      refine unmoved_of_read ?_ moved
      rw [receive_console active, nothing, List.foldl_nil]
    have silent : ((host.console.receive host.world.now front).console.receive
        host.world.now back).events = [] := by
      rw [read_console active] at deaf
      simp only [Deaf, active] at deaf
      exact deaf
    have handled := alike_told active reliable carried (joins host.world.now) told
    rw [receive_console active (front ++ back), (joins host.world.now).events, silent,
      List.append_nil, view_receive_of_deaf also]
    exact handled.view.symm
  · obtain ⟨still, unchosen⟩ := not_or.mp moved
    have stays : (host.receive front).active = .console := (not_not.mp still).trans active
    have handled := alike_back active reliable carried (joins _) rfl stays (not_not.mp unchosen)
    rw [receive_console active (front ++ back), (joins (host.receive front).world.now).events,
      List.foldl_append, receive_console stays, console_receive active (not_not.mp unchosen)]
    exact (handled.foldl_handleConsoleEvent _).view.symm

theorem reliable_receive_console (bytes : List UInt8) :
    (host.receive bytes).world.port.Reliable := by
  have same : Alike Endpoint.SameNumbers host host := .refl reliable carried rfl
  have read : Alike Endpoint.SameNumbers (host.read bytes) (host.read bytes) :=
    same.reads (reads_read _ _) (reads_read _ _) rfl rfl rfl (by rwa [link_read active])
  rw [receive_console active]
  exact (read.foldl_handleConsoleEvent _).splitPort

end Console

/-- A cut inside a frame is harmless. -/
theorem harmless_of_no_frame (active : host.active = .link)
    (unfinished : host.link.endpoint.frames front = []) (back : List UInt8) :
    host.Harmless front back := by
  have nothing : host.receive front = host.read front := by
    rw [receive_link active, unfinished]
    rfl
  refine ⟨fun moved => absurd moved (unmoved_of_read nothing), ?_, ?_, ?_, ?_⟩
  · rw [nothing, endpoint_read active, Endpoint.dataSent_receive]
    exact fun _ sent => absurd rfl sent
  · rw [unfinished]
    rintro - ⟨number, among⟩
    cases among
  · exact fun other => absurd (active.symm.trans other) (by decide)
  · exact fun other => absurd (active.symm.trans other) (by decide)

theorem receive_pieces (reliable : host.world.port.Reliable)
    (carried : host.waiting = true → host.link.connected = true)
    (harmless : host.Harmless front back) :
    ((host.receive front).receive back).view = (host.receive (front ++ back)).view := by
  cases active : host.active with
  | link => exact pieces_link active reliable carried harmless
  | console => exact pieces_console active reliable carried harmless

theorem reliable_receive (reliable : host.world.port.Reliable)
    (carried : host.waiting = true → host.link.connected = true) (bytes : List UInt8) :
    (host.receive bytes).world.port.Reliable := by
  cases active : host.active with
  | link => exact reliable_receive_link active reliable carried bytes
  | console => exact reliable_receive_console active reliable carried bytes

/-- Bytes may come in any pieces whose cuts are harmless: to the user and the peer it is as
if they had come in one. -/
theorem receive_chunks (settings : Settings) (port : Port) (now : Nat)
    (history : List Operation) (first : List UInt8) (later : List (List UInt8)) :
    let host := (ofSettings settings { port, now }).run history
    host.world.port.Reliable → host.Separable first later →
    (later.foldl receive (host.receive first)).view =
      (host.receive (first :: later).flatten).view := by
  intro host reliable separable
  have carried (history : List Operation) :
      ((ofSettings settings { port, now }).run history).waiting = true →
        ((ofSettings settings { port, now }).run history).link.connected = true :=
    fun inFlight => ((sound_run settings port now history).carries inFlight).2.2.1
  -- Pieces are taken off the front: what is left is cut after a longer history.
  induction later generalizing history first with
  | nil => rw [List.flatten_singleton, List.foldl_nil]
  | cons next later ih =>
    obtain ⟨harmless, rest⟩ := separable
    have further : host.receive first =
        (ofSettings settings { port, now }).run (history ++ [.receive first]) := by
      rw [run_append]
      rfl
    have after : (host.receive first).world.port.Reliable :=
      reliable_receive reliable (carried history) first
    rw [further] at rest after
    have remaining := ih (history ++ [.receive first]) next after rest
    rw [← further] at remaining
    rw [List.foldl_cons, remaining]
    exact receive_pieces reliable (carried history) harmless

/-- A response in two pieces, the second of which has the beginning of a message too. The
next command goes out between that piece and the last. -/
theorem receive_chunks_around_send :
    let response := (Wire.Frame.data 0 1 false [0x00, 0x80, 0xFF, 0x00, 0x05]).wire
    let message := (Wire.Frame.data 1 1 false [0x00, 0x80, 0xFF, 0x00, 0x07]).wire
    let host := (ofSettings {} { port := { name := "line" } }).run
      [.openPort, .receive (Wire.Frame.resetAck .powerOn).wire, .submit 0x05 [], .submit 0x06 []]
    let first := response.take 3
    let second := response.drop 3 ++ message.take 4
    let third := message.drop 4
    (host.world.port.Reliable ∧ host.Separable first [second, third]) ∧
    ([second, third].foldl receive (host.receive first)).view =
      (host.receive [first, second, third].flatten).view := by
  intro response message host first second third
  have reliable : host.world.port.Reliable := by decide +kernel
  have rest : ((host.receive first).read second).link.endpoint.frames [third].flatten =
      [.data 1 1 false [0x00, 0x80, 0xFF, 0x00, 0x07]] := by
    decide +kernel
  have separable : host.Separable first [second, third] := by
    refine ⟨harmless_of_no_frame (by decide +kernel) (by decide +kernel) _,
      ⟨?_, ?_, ?_, ?_, ?_⟩, trivial⟩
    · exact fun moved => absurd moved (by decide +kernel)
    · intro _ _ number
      rw [rest]
      simp
    · exact fun _ _ down => absurd down (by decide +kernel)
    · exact fun other => absurd other (by decide +kernel)
    · exact fun other => absurd other (by decide +kernel)
  have whole (reached : Host) (same : reached = (ofSettings {} { port := { name := "line" } }).run
      [.openPort, .receive (Wire.Frame.resetAck .powerOn).wire, .submit 0x05 [], .submit 0x06 []]) :
      reached.world.port.Reliable → reached.Separable first [second, third] →
        ([second, third].foldl receive (reached.receive first)).view =
          (reached.receive [first, second, third].flatten).view := by
    rw [same]
    exact receive_chunks {} { name := "line" } 0 _ first [second, third]
  exact ⟨⟨reliable, separable⟩, whole host rfl reliable separable⟩

/-- Of a prompt the user is told first. -/
theorem events_prompt (active : host.active = .console) :
    ∃ later, (host.handleConsoleEvent .promptDetected).world.events =
      host.world.events ++ .promptSeen host.console.version :: later := by
  have goesOn {after : Host} (moves : Moves none host.prompted after) :
      ∃ later, after.world.events =
        host.world.events ++ .promptSeen host.console.version :: later := by
    obtain ⟨added, journal, -⟩ := moves.packetless
    refine ⟨added.filterMap Effect.event?, ?_⟩
    rw [World.events, journal]
    simp [World.events, prompted, report, World.report, Effect.event?]
  rcases host.prompt_cases with ⟨-, same⟩ | ⟨-, same⟩ | ⟨-, same⟩
  · rw [same]
    exact goesOn (moves_leaveBootloader _ active)
  · rw [same]
    exact goesOn (moves_startUpload _ active)
  · rw [same]
    exact goesOn .refl

theorem events_receive_prompt (active : host.active = .console)
    (told : (host.console.receive host.world.now bytes).events = [.promptDetected]) :
    ∃ later, (host.receive bytes).world.events = host.world.events ++
      .promptSeen (host.console.receive host.world.now bytes).console.version :: later := by
  have stays : (host.read bytes).active = .console := by
    rw [(reads_read host bytes).rest]
    exact active
  obtain ⟨later, events⟩ := events_prompt stays
  rw [(reads_read host bytes).events, reading_read active] at events
  rw [receive_console active, told]
  exact ⟨later, events⟩

open Bootloader in
/-- A version line that is too long to be kept, cut before its end. -/
theorem long_line_shows (active : host.active = .console)
    (probing : host.console.stage = .probing) (empty : host.console.buffer = [])
    (unknown : host.console.version = none) {line : List UInt8} (plain : 0 ∉ line)
    (unended : newline ∉ line) (long : maxBuffer < line.length)
    (differs : versionOf (line.drop (line.length - header.length)) ≠ versionOf line) :
    ((host.receive (header ++ line)).receive (newline :: prompt)).view ≠
      (host.receive (header ++ line ++ newline :: prompt)).view := by
  obtain ⟨silent, second, whole, ofTail, ofLine⟩ :=
    host.console.receive_long_line probing empty plain unended long host.world.now
      (host.read (header ++ line)).world.now
  have read := reads_read host (header ++ line)
  have stays : (host.read (header ++ line)).active = .console := by
    rw [read.rest]
    exact active
  have first : host.receive (header ++ line) = host.read (header ++ line) := by
    rw [receive_console active, silent]
    rfl
  rw [← reading_read active] at second ofTail
  obtain ⟨later, inPieces⟩ := events_receive_prompt stays second
  obtain ⟨later', atOnce⟩ := events_receive_prompt active whole
  rw [ofTail, unknown, Option.or_none, read.events] at inPieces
  rw [ofLine, unknown, Option.or_none] at atOnce
  intro same
  have events := congrArg View.events same
  simp only [view, first] at events
  rw [inPieces, atOnce] at events
  have prompts := (List.cons.inj (List.append_cancel_left events)).1
  exact differs (Event.promptSeen.inj prompts)

/-- Cuts that show: there the pieces are not what the whole is. -/
theorem cuts_that_show :
    let shows (history : List Operation) (front back : List UInt8) : Prop :=
      let host := (ofSettings {} { port := { name := "line" } }).run history
      host.opened = true ∧ host.world.port.Reliable ∧
        ((host.receive front).receive back).view ≠ (host.receive (front ++ back)).view
    let connected : List Operation := [.openPort, .receive (Wire.Frame.resetAck .powerOn).wire]
    let probed : List Operation := [.openPort, .switchMode .upgrading, .fireConsole, .poll]
    let menu := Bootloader.header ++ [Bootloader.newline] ++ Bootloader.prompt ++ [0]
    let answer id := (Wire.Frame.data 0 1 false [0x00, 0x80, 0xFF, 0x00, id]).wire
    let line := 0x76 :: List.replicate Bootloader.maxBuffer 0x20
    -- A message behind the response that has the console take the port.
    shows (connected ++ [.switchMode .upgrading]) (answer Ezsp.launchBootloader)
      (Wire.Frame.data 1 1 false [0x00, 0x80, 0xFF, 0x00, 0x07]).wire ∧
    -- The receiver is ready right behind the prompt at which the upload is chosen.
    shows probed menu [Bootloader.receiverReady] ∧
    -- A NAK behind the response after which the next command is sent.
    shows (connected ++ [.submit 0x05 [], .submit 0x06 []]) (answer 0x05)
      (Wire.Frame.nak 0).wire ∧
    -- A NAK right before the link comes up for the command queued.
    shows [.openPort, .submit 0x05 []] (Wire.Frame.nak 0).wire
      (Wire.Frame.resetAck .powerOn).wire ∧
    -- The receiver is ready, and then something else comes.
    shows (probed ++ [.receive menu]) [Bootloader.receiverReady] [0x78] ∧
    -- The line of the header is longer than what is kept of it.
    shows probed (Bootloader.header ++ line) (Bootloader.newline :: Bootloader.prompt) := by
  intro shows connected probed menu answer line
  refine ⟨by decide +kernel, by decide +kernel, by decide +kernel, by decide +kernel,
    by decide +kernel, ?_⟩
  have tail : line.drop (line.length - Bootloader.header.length) =
      List.replicate Bootloader.header.length 0x20 := by
    have fits : Bootloader.header.length ≤ Bootloader.maxBuffer := by decide
    have length : line.length - Bootloader.header.length =
        Bootloader.maxBuffer - Bootloader.header.length + 1 := by
      simp only [line, List.length_cons, List.length_replicate]
      omega
    rw [length, List.drop_succ_cons, List.drop_replicate, Nat.sub_sub_self fits]
  have blank : Bootloader.versionOf (List.replicate Bootloader.header.length 0x20) = none := by
    decide +kernel
  refine ⟨by decide +kernel, by decide +kernel, long_line_shows (by decide +kernel)
    (by decide +kernel) (by decide +kernel) (by decide +kernel) ?_ ?_ ?_ ?_⟩
  · simp [line]
  · simp [line, Bootloader.newline]
  · simp only [line, List.length_cons, List.length_replicate]
    exact Nat.lt_succ_self _
  · rw [tail, blank]
    exact (Bootloader.versionOf_ne_none (by decide) (by decide) _).symm

end Host
end NcpHost
