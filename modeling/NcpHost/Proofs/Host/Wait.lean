import NcpHost.Proofs.Endpoint.Frames
import NcpHost.Proofs.Host.Move

/-! One timer serves the handshake and the DATA frames. What it waits for is told
from the journal here, by the last frame that began a wait, and not from the state
of the link, which is all that the link itself looks at when the timer expires. -/
namespace NcpHost

/-- What the link waits for. -/
inductive Wait where
  | handshake
  | acknowledgement
  deriving DecidableEq, Repr

/-- The wait that begins once the port has accepted it all. -/
def Transmission.wait? : Transmission → Option Wait
  | .frame .reset => some .handshake
  | .frame (.data ..) => some .acknowledgement
  | _ => none

/-- The wait that has expired if the link tells this. -/
def LinkEvent.wait? : LinkEvent → Option Wait
  | .resetFailed => some .handshake
  | .ackTimeout _ => some .acknowledgement
  | _ => none

def Effect.wait? (effect : Effect) : Option Wait :=
  effect.delivered?.bind Transmission.wait?

theorem Effect.IsQuiet.wait?_eq_none {effect : Effect} (quiet : effect.IsQuiet) :
    effect.wait? = none := by
  cases effect with
  | received | reported | noted | handedOver | handedBack | waitEnded => rfl
  | queued | answered => exact quiet.elim
  | sent what outcome =>
    cases what with
    | probe | choice => cases outcome <;> simp [wait?, delivered?, Transmission.wait?]
    | frame content =>
      cases content with
      | reset | data => exact quiet.elim
      | ack | nak | resetAck => cases outcome <;> simp [wait?, delivered?, Transmission.wait?]

namespace World

/-- The waits begun so far, oldest first. -/
def waits (world : World) : List Wait := world.journal.filterMap Effect.wait?

variable (world : World)

theorem Adds.waits {before after : World} (quiet : Quiet before after) :
    after.waits = before.waits :=
  quiet.filterMap fun _ => Effect.IsQuiet.wait?_eq_none

@[simp] theorem waits_record (effect : Effect) :
    (world.record effect).waits = world.waits ++ effect.wait?.toList := by
  cases begun : effect.wait? <;> simp [World.waits, begun]

theorem waits_transmit (what : Transmission) :
    (world.transmit what).2.waits =
      world.waits ++ if (world.transmit what).1.isOk then what.wait?.toList else [] := by
  rw [transmit, waits_record]
  simp only [Effect.wait?, Effect.delivered?]
  split <;> rfl

end World

namespace Host

/-- As much of a host as its waiting depends on. -/
structure Standing where
  opened : Bool
  active : Engine
  connected : Bool
  timeouts : Timeouts
  /-- The timer of the link. -/
  running : Bool
  lastMs : Option Nat
  starts : Nat
  /-- The waits that frames on the line have begun. -/
  waits : List Wait
  waiting : Bool
  /-- The oldest command has been given its sequence number. -/
  numbered : Bool

def standing (host : Host) : Standing where
  opened := host.opened
  active := host.active
  connected := host.link.connected
  timeouts := host.link.timeouts
  running := host.link.timer.running
  lastMs := host.link.timer.lastMs
  starts := host.link.timer.starts
  waits := host.world.waits
  waiting := host.waiting
  numbered := host.queue.head?.any (·.sequence.isSome)

namespace Standing

/-- The last wait begun is for an answer to the reset, and so is the timer. -/
structure AwaitsHandshake (standing : Standing) : Prop where
  connected : standing.connected = false
  lastMs : standing.lastMs = some standing.timeouts.resetAck
  last : standing.waits.getLast? = some .handshake

/-- The last wait begun is for an acknowledgement of the command in flight, and so
is the timer. -/
structure AwaitsAcknowledgement (standing : Standing) : Prop where
  connected : standing.connected = true
  lastMs : standing.lastMs = some standing.timeouts.dataAck
  last : standing.waits.getLast? = some .acknowledgement
  waiting : standing.waiting = true

structure Sound (timeouts : Timeouts) (standing : Standing) : Prop where
  timeouts : standing.timeouts = timeouts
  inFlight : standing.waiting = true →
    standing.opened = true ∧ standing.active = .link ∧ standing.connected = true ∧
      standing.numbered = true
  armed : standing.running = true → standing.opened = true ∧ standing.active = .link ∧
    (standing.AwaitsHandshake ∨ standing.AwaitsAcknowledgement)
  starts : standing.starts = standing.waits.length

/-- Nothing is waited for. -/
theorem Sound.of_idle {timeouts : Timeouts} {standing : Standing}
    (same : standing.timeouts = timeouts) (still : standing.running = false)
    (idle : standing.waiting = false) (starts : standing.starts = standing.waits.length) :
    standing.Sound timeouts where
  timeouts := same
  inFlight waiting := by rw [idle] at waiting; contradiction
  armed running := by rw [still] at running; contradiction
  starts := starts

/-- Once the timer stands still, the link may come up. -/
theorem Sound.still {timeouts : Timeouts} {standing : Standing} (sound : standing.Sound timeouts)
    {connected : Bool} (up : standing.connected = true → connected = true) :
    Sound timeouts { standing with connected, running := false } := by
  refine ⟨sound.timeouts, ?_, by intro running; contradiction, sound.starts⟩
  intro waiting
  obtain ⟨opened, active, before, numbered⟩ := sound.inFlight waiting
  exact ⟨opened, active, up before, numbered⟩

/-- A wait is begun if its frame has gone out whole; otherwise the timer stands
still. -/
def begin (standing : Standing) (wait : Wait) (ms : Nat) (sent : Bool) : Standing :=
  if sent then
    { standing with
      running := true
      lastMs := some ms
      starts := standing.starts + 1
      waits := standing.waits ++ [wait] }
  else { standing with running := false }

theorem Sound.reset {timeouts : Timeouts} {standing : Standing} (sound : standing.Sound timeouts)
    (opened : standing.opened = true) (active : standing.active = .link) (sent : Bool) :
    Sound timeouts { standing.begin .handshake timeouts.resetAck sent with
      connected := false
      waiting := false } := by
  cases sent with
  | false => exact .of_idle sound.timeouts rfl rfl sound.starts
  | true =>
    refine ⟨sound.timeouts, by intro waiting; contradiction, ?_, ?_⟩
    · intro running
      refine ⟨opened, active, .inl ⟨rfl, ?_, List.getLast?_concat⟩⟩
      rw [← sound.timeouts]
      rfl
    · simp [begin, sound.starts]

theorem Sound.send {timeouts : Timeouts} {standing : Standing} (sound : standing.Sound timeouts)
    (opened : standing.opened = true) (active : standing.active = .link)
    (connected : standing.connected = true) (sent : Bool) :
    Sound timeouts { standing.begin .acknowledgement timeouts.dataAck sent with
      waiting := sent
      numbered := true } := by
  cases sent with
  | false => exact .of_idle sound.timeouts rfl rfl sound.starts
  | true =>
    refine ⟨sound.timeouts, fun _ => ⟨opened, active, connected, rfl⟩, ?_, ?_⟩
    · intro running
      refine ⟨opened, active, .inr ⟨connected, ?_, List.getLast?_concat, rfl⟩⟩
      rw [← sound.timeouts]
      rfl
    · simp [begin, sound.starts]

/-- Handing the port to the link changes nothing for a host that waits. -/
theorem Sound.handBack {timeouts : Timeouts} {standing : Standing}
    (sound : standing.Sound timeouts) {opened : Bool}
    (still : standing.opened = true → opened = true) :
    Sound timeouts { standing with opened, active := .link } := by
  refine ⟨sound.timeouts, ?_, ?_, sound.starts⟩
  · intro waiting
    obtain ⟨before, -, rest⟩ := sound.inFlight waiting
    exact ⟨still before, rfl, rest⟩
  · intro running
    obtain ⟨before, -, shakes | awaits⟩ := sound.armed running
    · exact ⟨still before, rfl, .inl ⟨shakes.connected, shakes.lastMs, shakes.last⟩⟩
    · exact ⟨still before, rfl,
        .inr ⟨awaits.connected, awaits.lastMs, awaits.last, awaits.waiting⟩⟩

end Standing

variable {timeouts : Timeouts} {hearer : Option Engine} {host host' : Host}

/-- The link and the queue as they were, and nothing but quiet entries: the host
stands as it did. -/
theorem standing_world {world : World} (quiet : World.Quiet host.world world) :
    standing { host with world } = host.standing := by
  simp only [standing, quiet.waits]

theorem standing_setMode (mode : Mode) : (host.setMode mode).standing = host.standing := by
  rcases host.setMode_cases mode with ⟨-, same⟩ | ⟨-, moved⟩
  · rw [same]
  · rw [moved]
    exact standing_world ((World.Adds.refl _).record trivial)

/-- Going to the bootloader ends every wait. -/
theorem standing_enterBootloader (goal : MenuEntry) :
    (host.enterBootloader goal).standing = { host.standing with
      active := .console
      running := false
      waiting := false } := by
  have turned : (host.turned goal).standing = { host.standing with
      active := .console
      running := false
      waiting := false } := by
    simp [standing, turned, record, endWait, Link.endWait, Effect.wait?, Effect.delivered?,
      Timer.stop, Link.connected]
  rw [enterBootloader_eq]
  dsimp only
  split
  · exact (standing_setMode _).trans turned
  · exact turned

/-- The wait for the handshake begins with the reset. -/
theorem standing_reset (opened : host.opened = true) :
    host.sendReset.2.standing =
      { host.standing.begin .handshake host.standing.timeouts.resetAck
          (host.world.transmit (.frame .reset)).1.isOk with
        connected := false
        waiting := false } := by
  have waits := host.world.waits_transmit (.frame .reset)
  cases outcome : (host.world.transmit (.frame .reset)).1.isOk <;>
    simp [sendReset, opened, Link.reset_eq, outcome, standing, Standing.begin, waits,
      Transmission.wait?, World.note, Effect.wait?, Effect.delivered?, Link.connected,
      Endpoint.connected, Endpoint.reset, Timer.start, Timer.stop]

/-- The wait for an acknowledgement begins with the command that goes out. -/
theorem standing_send {command : Ezsp.Command} {later : List Ezsp.Command}
    (can : host.CanSend) (oldest : host.queue = command :: later) :
    ∃ sent, { host with waiting := false }.sendNext.2.standing =
      { host.standing.begin .acknowledgement host.standing.timeouts.dataAck sent with
        waiting := sent
        numbered := true } := by
  rw [sendNext_of_can host can oldest, Link.send_eq]
  generalize Ezsp.Frame.encode _ command.id command.parameters = payload
  have quiet : World.Quiet host.world _ :=
    (World.Adds.refl host.world).notes (Endpoint.oversized payload) fun _ _ => trivial
  have waits := (host.world.notes (Endpoint.oversized payload)).waits_transmit
    (.frame (host.link.endpoint.data payload).1)
  rw [quiet.waits] at waits
  generalize (host.world.notes (Endpoint.oversized payload)).transmit
    (.frame (host.link.endpoint.data payload).1) = sent at waits ⊢
  refine ⟨sent.1.isOk, ?_⟩
  cases outcome : sent.1.isOk <;>
    simp [outcome, standing, Standing.begin, waits, Transmission.wait?, Link.connected,
      Endpoint.connected, Endpoint.data, Timer.start, Timer.stop]

theorem standing_read_ended {bytes : List UInt8}
    (ended : .cancelTimer ∈ (host.link.endpoint.receive bytes).signals) :
    standing { host with
      link := (host.link.receive host.world bytes).2.1
      world := (host.link.receive host.world bytes).2.2 } =
        { host.standing with
          connected := (host.link.endpoint.receive bytes).endpoint.connected
          running := false } := by
  have quiet : World.Quiet host.world _ :=
    host.link.adds_receive host.world bytes (fun _ _ => trivial) trivial
  simp only [standing, quiet.waits, Link.receive_link, if_pos ended]
  rfl

/-- As long as nothing ends the wait, the link does not come up either. -/
theorem standing_read {bytes : List UInt8}
    (quiet : .cancelTimer ∉ (host.link.endpoint.receive bytes).signals) :
    standing { host with
      link := (host.link.receive host.world bytes).2.1
      world := (host.link.receive host.world bytes).2.2 } = host.standing := by
  have same : (host.link.endpoint.receive bytes).endpoint.connected = host.link.connected := by
    cases before : host.link.endpoint.connected with
    | true => rw [Link.connected, before, Endpoint.connected_receive]; exact .inl before
    | false =>
      rw [Link.connected, before]
      exact Bool.eq_false_iff.mpr fun up => quiet (Endpoint.cancelTimer_of_connected before up)
  have still : World.Quiet host.world _ :=
    host.link.adds_receive host.world bytes (fun _ _ => trivial) trivial
  simp only [standing, still.waits, Link.receive_link, if_neg quiet]
  rw [← same]
  rfl

theorem standing_pollLink (host : Host) :
    let polled := standing { host with
      link := (host.link.poll host.world).2.1
      world := (host.link.poll host.world).2.2 }
    polled = host.standing ∨ polled = { host.standing with running := false } := by
  intro polled
  simp only [polled, standing, (host.link.adds_poll host.world fun _ _ => trivial).waits]
  unfold Link.poll
  split
  · exact .inl rfl
  · next timer collected =>
    have stopped : timer = host.link.timer.stop := by
      unfold Timer.collect at collected
      split at collected
      · exact (Prod.mk.inj collected).2.symm
      · cases collected
    subst stopped
    refine .inr ?_
    dsimp only
    split <;> rfl

theorem Standing.Sound.of_same (sound : host.standing.Sound timeouts)
    (same : host'.standing = host.standing) : host'.standing.Sound timeouts := by
  rwa [same]

theorem Standing.Sound.record (sound : host.standing.Sound timeouts) {effect : Effect}
    (quiet : effect.IsQuiet) : (host.record effect).standing.Sound timeouts :=
  sound.of_same (standing_world ((World.Adds.refl _).record quiet))

/-- Every move keeps the timer and the command in flight in step. -/
theorem Move.sound (move : Move hearer host host') (sound : host.standing.Sound timeouts) :
    host'.standing.Sound timeouts := by
  cases move with
  | force | port | fireLink | fireConsole | launch | launched | settle | rewind => exact sound
  | remark effect isRemark => exact sound.record isRemark.isQuiet
  | mode mode => exact sound.of_same (standing_setMode mode)
  | enqueue command opened unsent =>
    have same : standing ({ host with queue := host.queue ++ [command] }.record
        (.queued command)) = host.standing := by
      cases queue : host.queue <;>
        simp [standing, record, Effect.wait?, Effect.delivered?, queue, unsent]
    exact sound.of_same same
  | send command later can oldest =>
    obtain ⟨sent, shape⟩ := standing_send can oldest
    rw [shape, sound.timeouts]
    exact sound.send can.opened can.active can.connected sent
  | hold cannot =>
    refine ⟨sound.timeouts, by intro waiting; contradiction, ?_, sound.starts⟩
    intro running
    obtain ⟨opened, active, shakes | awaits⟩ := sound.armed running
    · exact ⟨opened, active, .inl ⟨shakes.connected, shakes.lastMs, shakes.last⟩⟩
    · refine absurd ⟨⟨opened, active, awaits.connected⟩, ?_⟩ cannot
      have numbered := (sound.inFlight awaits.waiting).2.2.2
      intro empty
      simp [standing, empty] at numbered
  | answer response command later inFlight oldest matching =>
    refine .of_idle sound.timeouts rfl rfl ?_
    have starts := sound.starts
    simpa [standing, record, report, World.report, endWait, Link.endWait, Effect.wait?,
      Effect.delivered?, Timer.stop] using starts
  | read bytes active =>
    by_cases ended : .cancelTimer ∈ (host.link.endpoint.receive bytes).signals
    · rw [standing_read_ended ended]
      exact sound.still fun before => (Endpoint.connected_receive _ bytes).mpr (.inl before)
    · exact sound.of_same (standing_read ended)
  | acknowledge opened heard =>
    exact sound.of_same (standing_world (host.link.adds_acknowledge host.world fun _ _ => trivial))
  | pollLink =>
    rcases standing_pollLink host with same | expired
    · exact sound.of_same same
    · rw [expired]
      exact sound.still id
  | reset opened active =>
    rw [standing_reset opened, sound.timeouts]
    exact sound.reset opened active _
  | enter goal =>
    rw [standing_enterBootloader]
    exact .of_idle sound.timeouts rfl rfl sound.starts
  | readConsole bytes active =>
    exact sound.of_same (standing_world ((World.Adds.refl _).notes _ fun _ _ => trivial))
  | pollConsole opened active =>
    exact sound.of_same (standing_world (host.console.adds_poll host.world fun _ => trivial))
  | choose entry opened active =>
    exact sound.of_same (standing_world
      (host.console.adds_choose host.world entry (fun _ => trivial) fun _ _ => trivial))
  | handBack opened =>
    have shape : standing { host.record .handedBack with
        console := host.console.detach
        active := .link } = { host.standing with active := .link } := by
      simp [standing, record, Effect.wait?, Effect.delivered?]
    rw [shape]
    exact sound.handBack id
  | take =>
    have shape : standing { host.record .handedBack with
        opened := true
        active := .link } = { host.standing with opened := true, active := .link } := by
      simp [standing, record, Effect.wait?, Effect.delivered?]
    rw [shape]
    exact sound.handBack fun _ => rfl
  | close =>
    refine .of_idle sound.timeouts rfl rfl ?_
    have starts := sound.starts
    simpa [standing, closePort, record, endWait, Link.endWait, Effect.wait?, Effect.delivered?,
      Timer.stop] using starts

theorem sound_run (settings : Settings) (port : Port) (now : Nat) (history : List Operation) :
    ((ofSettings settings { port, now }).run history).standing.Sound settings.timeouts :=
  let sound (_ : Option Engine) (host : Host) := host.standing.Sound settings.timeouts
  have ⟨_, holds⟩ := run_of_moves (P := sound) (fun _ _ _ move before => move.sound before)
    (fun _ _ _ before => before.record trivial) none (.of_idle rfl rfl rfl rfl) history
  holds

/-- Told to send again, a host that can send repeats the oldest command. -/
theorem resend_sends {command : Ezsp.Command} {later : List Ezsp.Command} {sequence : UInt8}
    (undertaking : Undertaking) (can : host.CanSend) (oldest : host.queue = command :: later)
    (numbered : command.sequence = some sequence) :
    ∃ added outcome, (host.resend undertaking).world.journal = host.world.journal ++ added ∧
      .sent (.frame (host.link.endpoint.data
        (Ezsp.Frame.encode sequence command.id command.parameters)).1) outcome ∈ added := by
  obtain ⟨notes, journal⟩ := attempt_journal undertaking { host with waiting := false }.sendNext
  rw [sendNext_of_can host can oldest, Link.send_journal] at journal
  simp only [numbered, Option.getD_some, List.append_assoc] at journal
  exact ⟨_, _, journal, List.mem_append_right _ (List.mem_append_left _ List.mem_cons_self)⟩

/-- A command in flight has a link to carry it and a number to be known by. -/
theorem Standing.Sound.carries (sound : host.standing.Sound timeouts)
    (inFlight : host.waiting = true) :
    host.opened = true ∧ host.active = .link ∧ host.link.connected = true ∧
      ∃ command later, host.queue = command :: later ∧ command.sequence.isSome = true := by
  obtain ⟨opened, active, connected, numbered⟩ := sound.inFlight inFlight
  refine ⟨opened, active, connected, ?_⟩
  cases queue : host.queue with
  | nil => simp [standing, queue] at numbered
  | cons command later =>
    exact ⟨command, later, rfl, by simpa [standing, queue] using numbered⟩

/-- What expires is what was begun last. -/
theorem Standing.Sound.expires (sound : host.standing.Sound timeouts) {event : LinkEvent}
    (expired : (host.link.poll host.world).1 = some event) :
    ∃ wait, event.wait? = some wait ∧ host.world.waits.getLast? = some wait := by
  obtain ⟨running, named⟩ := Link.poll_some expired
  obtain ⟨-, -, shakes | awaits⟩ := sound.armed running
  · rcases named with ⟨-, rfl⟩ | ⟨up, -⟩
    · exact ⟨.handshake, rfl, shakes.last⟩
    · exact absurd (shakes.connected.symm.trans up) (by decide)
  · rcases named with ⟨down, -⟩ | ⟨-, rfl⟩
    · exact absurd (awaits.connected.symm.trans down) (by decide)
    · exact ⟨.acknowledgement, rfl, awaits.last⟩

/-- An expiry is told of, for what was begun last, and the host sees to it. -/
theorem Standing.Sound.tells (sound : host.standing.Sound timeouts)
    (running : host.link.timer.running = true) (due : host.link.timer.due = true) :
    ∃ event, (host.link.poll host.world).1 = some event ∧
      event.wait? = host.world.waits.getLast? ∧
      host.pollLink = host.polled.handleLinkEvent event := by
  obtain ⟨event, expired⟩ := Link.poll_of_due running due host.world
  obtain ⟨wait, named, last⟩ := sound.expires expired
  refine ⟨event, expired, named.trans last.symm, ?_⟩
  rcases host.pollLink_cases with ⟨none, -⟩ | ⟨other, expired', handled⟩
  · cases none.symm.trans expired
  · cases expired'.symm.trans expired
    exact handled

/-- A retransmission repeats the oldest command under its own number. -/
theorem Standing.Sound.retransmits (sound : host.standing.Sound timeouts)
    (expired : (host.link.poll host.world).1 = some (.ackTimeout .retransmit)) :
    ∃ command later sequence added number acked outcome,
      host.queue = command :: later ∧ command.sequence = some sequence ∧
      host.pollLink.world.journal = host.world.journal ++ added ∧
      .sent (.frame (.data number acked true
        (Ezsp.Frame.encode sequence command.id command.parameters))) outcome ∈ added := by
  obtain ⟨running, named⟩ := Link.poll_some expired
  have inFlight : host.waiting = true := by
    obtain ⟨-, -, shakes | awaits⟩ := sound.armed running
    · rcases named with ⟨-, other⟩ | ⟨up, -⟩
      · cases other
      · exact absurd (shakes.connected.symm.trans up) (by decide)
    · exact awaits.waiting
  obtain ⟨opened, active, connected, command, later, oldest, numbered⟩ := sound.carries inFlight
  obtain ⟨sequence, numbered⟩ := Option.isSome_iff_exists.mp numbered
  obtain ⟨notes, polled⟩ := Link.poll_journal host.link host.world
  let rewound : Host :=
    { note { host with
        link := (host.link.poll host.world).2.1
        world := (host.link.poll host.world).2.2 } .retransmitting with
      link := (host.link.poll host.world).2.1.prepareResend }
  have resent : host.pollLink = rewound.resend .retransmit := by
    simp only [pollLink, expired, Option.elim_some, handleLinkEvent, inFlight, if_true]
    rfl
  have can : rewound.CanSend := by
    refine ⟨opened, active, ?_⟩
    change (host.link.poll host.world).2.1.endpoint.connected = true
    rw [Link.poll_endpoint]
    exact connected
  obtain ⟨added, outcome, journal, member⟩ := resend_sends .retransmit can oldest numbered
  refine ⟨command, later, sequence, notes.map .noted ++ .noted .retransmitting :: added, _, _,
    outcome, oldest, numbered, ?_,
    List.mem_append_right _ (List.mem_cons_of_mem _ member)⟩
  rw [resent, journal, List.append_cons, ← List.append_assoc, ← List.append_assoc, ← polled]
  rfl

/-- Between any two operations of any history: a command in flight has its sequence
number and a link that is up to carry it, and the timer runs for the wait that was
begun last. Hence whatever the timer is polled for is what it was armed for, a timer that
runs and is due is polled for just that, and a retransmission repeats a command. -/
theorem timer_matches_wait (settings : Settings) (port : Port) (now : Nat)
    (history : List Operation) :
    let host := (ofSettings settings { port, now }).run history
    let expiry := (host.link.poll host.world).1
    (host.waiting = true →
      host.opened = true ∧ host.active = .link ∧ host.link.connected = true ∧
        ∃ command later, host.queue = command :: later ∧ command.sequence.isSome = true) ∧
    (host.link.timer.running = true →
      host.opened = true ∧ host.active = .link ∧
        (host.link.connected = false ∧
            host.link.timer.lastMs = some settings.timeouts.resetAck ∧
            host.world.waits.getLast? = some .handshake ∨
          host.link.connected = true ∧
            host.link.timer.lastMs = some settings.timeouts.dataAck ∧
            host.world.waits.getLast? = some .acknowledgement ∧
            host.waiting = true)) ∧
    host.link.timer.starts = host.world.waits.length ∧
    (∀ event, expiry = some event →
      ∃ wait, event.wait? = some wait ∧ host.world.waits.getLast? = some wait) ∧
    (host.link.timer.running = true → host.link.timer.due = true →
      ∃ event, expiry = some event ∧ event.wait? = host.world.waits.getLast? ∧
        host.pollLink = host.polled.handleLinkEvent event) ∧
    (expiry = some (.ackTimeout .retransmit) →
      ∃ command later sequence added number acked outcome,
        host.queue = command :: later ∧ command.sequence = some sequence ∧
        host.pollLink.world.journal = host.world.journal ++ added ∧
        .sent (.frame (.data number acked true
          (Ezsp.Frame.encode sequence command.id command.parameters))) outcome ∈ added) := by
  intro host expiry
  have sound : host.standing.Sound settings.timeouts := sound_run settings port now history
  refine ⟨sound.carries, ?_, sound.starts, fun event expired => sound.expires expired,
    sound.tells, fun expired => sound.retransmits expired⟩
  intro running
  obtain ⟨opened, active, shakes | awaits⟩ := sound.armed running
  · refine ⟨opened, active, .inl ⟨shakes.connected, ?_, shakes.last⟩⟩
    rw [← sound.timeouts]
    exact shakes.lastMs
  · refine ⟨opened, active, .inr ⟨awaits.connected, ?_, awaits.last, awaits.waiting⟩⟩
    rw [← sound.timeouts]
    exact awaits.lastMs

/-- A command that stays without acknowledgement is sent again. -/
example :
    let host := (ofSettings { retransmitOnAckTimeout := true } { port := { name := "line" } }).run
      [.openPort, .receive (Wire.Frame.resetAck .powerOn).wire, .submit 0x05 [0x01], .fireLink]
    (host.link.poll host.world).1 = some (.ackTimeout .retransmit) ∧
      host.world.waits = [.handshake, .acknowledgement] := by
  decide +kernel

end Host
end NcpHost
