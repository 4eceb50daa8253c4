import NcpHost.Proofs.Host.Alike
import NcpHost.Proofs.Link.Pieces

/-! Hosts that are alike but for what the link has read ahead. One of them reads bytes in
two pieces and is between them, the other has read both; each event of the first piece
keeps them alike. -/
namespace NcpHost
namespace Host

/-- The numbers of a link in two runs: `pending` is the link once the first piece is
read; after that one run has sent on it, and the other too, but has read `ahead` before.
If `ahead` has a NAK, a DATA frame sent in between leaves the two apart. -/
structure Lag (pending : Endpoint) (ahead : List Wire.Frame) (split whole : Endpoint) : Prop where
  buffer : split.buffer = pending.buffer
  corrupt : split.corrupt = pending.corrupt
  connected : split.connected = pending.connected
  up : whole.connected = true ↔ pending.connected = true ∨ ∃ code, .resetAck code ∈ ahead
  sent : pending.tally.dataSent ≤ split.tally.dataSent
  numbers : (∀ number, .nak number ∉ ahead) ∨
      split.tally.dataSent = pending.tally.dataSent →
    whole.sequence = ahead.foldl Sequence.accept split.sequence

namespace Lag

variable {pending split whole : Endpoint} {ahead : List Wire.Frame}

/-- Sending now goes the same way whether `ahead` has been read or not. -/
def Steady (pending : Endpoint) (ahead : List Wire.Frame) (queue : List Ezsp.Command) : Prop :=
  pending.connected = true ∨ queue = [] ∨ ∀ code, .resetAck code ∉ ahead

theorem start (pending whole : Endpoint) (ahead : List Wire.Frame)
    (read : whole.sequence = ahead.foldl Sequence.accept pending.sequence) :
    Lag pending ahead pending whole where
  buffer := rfl
  corrupt := rfl
  connected := rfl
  up := by
    rw [Endpoint.connected, read, Sequence.connected_foldl]
    rfl
  sent := Nat.le_refl _
  numbers _ := read

theorem ack (lag : Lag pending ahead split whole) : Lag pending ahead split.ack.2 whole.ack.2 :=
  { lag with numbers := lag.numbers }

theorem data (lag : Lag pending ahead split whole) (payload : List UInt8) :
    Lag pending ahead (split.data payload).2 (whole.data payload).2 where
  buffer := lag.buffer
  corrupt := lag.corrupt
  connected := lag.connected
  up := lag.up
  sent := Nat.le_succ_of_le lag.sent
  numbers := by
    have more : (split.data payload).2.tally.dataSent = split.tally.dataSent + 1 := rfl
    have before := lag.sent
    -- A frame sent may be sent before or after `ahead` is read unless a NAK is in it, which
    -- would set the number back.
    rintro (quiet | same)
    · have read := lag.numbers (.inl quiet)
      have taken : (split.data payload).2.sequence = split.sequence.advance := rfl
      have also : (whole.data payload).2.sequence = whole.sequence.advance := rfl
      rw [taken, also, read, Sequence.foldl_accept_advance _ quiet]
    · omega

end Lag

variable (host : Host)

theorem acknowledge_reliable (reliable : host.world.port.Reliable) :
    host.acknowledge =
      if host.opened then
        { host with
          link.endpoint := host.link.endpoint.ack.2
          world := (host.world.transmit (.frame host.link.endpoint.ack.1)).2 }
      else host := by
  have taken := (host.world.transmit_reliable reliable (.frame host.link.endpoint.ack.1)).1
  simp only [Host.acknowledge, Link.acknowledge, taken]

namespace Alike

variable {pending : Endpoint} {ahead : List Wire.Frame} {split whole : Host}

theorem acknowledge (alike : Alike (Lag pending ahead) split whole) :
    Alike (Lag pending ahead) split.acknowledge whole.acknowledge := by
  rw [acknowledge_reliable split alike.splitPort, acknowledge_reliable whole alike.wholePort,
    alike.opened]
  split_ifs
  · exact { alike with
      events := by simp [alike.events]
      opened := rfl
      link := alike.link.ack
      splitPort := (split.world.transmit_reliable alike.splitPort _).2
      wholePort := (whole.world.transmit_reliable alike.wholePort _).2 }
  · exact alike

/-- The oldest command can go out in both runs or in neither. -/
theorem canSend_iff (alike : Alike (Lag pending ahead) split whole)
    (steady : Lag.Steady pending ahead split.queue) :
    whole.CanSend ∧ whole.queue ≠ [] ↔ split.CanSend ∧ split.queue ≠ [] := by
  rw [alike.queue]
  constructor
  · rintro ⟨can, some⟩
    have up : pending.connected = true := by
      rcases alike.link.up.mp can.connected with up | ⟨code, member⟩
      · exact up
      · rcases steady with up | none | other
        · exact up
        · exact absurd none some
        · exact absurd member (other code)
    exact ⟨⟨alike.opened ▸ can.opened, alike.active ▸ can.active,
      alike.link.connected.trans up⟩, some⟩
  · rintro ⟨can, some⟩
    have up : pending.connected = true := alike.link.connected.symm.trans can.connected
    exact ⟨⟨alike.opened.trans can.opened, alike.active.trans can.active,
      alike.link.up.mpr (.inl up)⟩, some⟩

theorem resume (alike : Alike (Lag pending ahead) split whole)
    (steady : Lag.Steady pending ahead split.queue) :
    Alike (Lag pending ahead) { split with waiting := false }.sendNext.2
      { whole with waiting := false }.sendNext.2 := by
  have both := alike.canSend_iff steady
  by_cases can : split.CanSend ∧ split.queue ≠ []
  · obtain ⟨command, later, oldest⟩ := List.exists_cons_of_ne_nil can.2
    have also : whole.queue = command :: later := alike.queue.trans oldest
    rw [sendNext_of_can split can.1 oldest, sendNext_of_can whole (both.mpr can).1 also,
      alike.nextSequence]
    generalize Ezsp.Frame.encode _ command.id command.parameters = payload
    have one := split.link.send_reliable alike.splitPort payload
    have other := whole.link.send_reliable alike.wholePort payload
    exact { alike with
      events := by rw [one.events, other.events, alike.events]
      queue := rfl
      nextSequence := rfl
      waiting := by rw [one.taken, other.taken]
      link := by rw [one.endpoint, other.endpoint]; exact alike.link.data payload
      carried := by
        intro
        rw [Link.connected, one.endpoint]
        exact can.1.connected
      splitPort := one.port
      wholePort := other.port }
  · rw [sendNext_idle_of_cannot split can, sendNext_idle_of_cannot whole (mt both.mp can)]
    exact { alike with waiting := rfl, carried := by simp }

theorem sendNext (alike : Alike (Lag pending ahead) split whole) (idle : split.waiting = false)
    (steady : Lag.Steady pending ahead split.queue) :
    Alike (Lag pending ahead) split.sendNext.2 whole.sendNext.2 := by
  have one : { split with waiting := false } = split := by rw [← idle]
  have other : { whole with waiting := false } = whole := by rw [← idle, ← alike.waiting]
  have resumed := alike.resume steady
  rwa [one, other] at resumed

theorem resend (alike : Alike (Lag pending ahead) split whole) (undertaking : Undertaking)
    (steady : Lag.Steady pending ahead split.queue) :
    Alike (Lag pending ahead) (split.resend undertaking) (whole.resend undertaking) :=
  (alike.resume steady).attempt

theorem complete (alike : Alike (Lag pending ahead) split whole)
    (inFlight : split.waiting = true) (response : Ezsp.Frame) (command : Ezsp.Command)
    (later : List Ezsp.Command) :
    Alike (Lag pending ahead) (split.complete response command later)
      (whole.complete response command later) := by
  have answered : Alike (Lag pending ahead)
      { split.endWait.record (.answered command response) with
        queue := later, waiting := false }
      { whole.endWait.record (.answered command response) with
        queue := later, waiting := false } :=
    { alike.endWait.record rfl with queue := rfl, waiting := rfl, carried := by simp }
  -- What is answered was in flight, so the link is up and nothing in `ahead` can raise it.
  have up : pending.connected = true :=
    alike.link.connected.symm.trans (alike.carried inFlight)
  rw [complete_eq, complete_eq, alike.launchPending]
  dsimp only
  split_ifs
  · have launched : Alike (Lag pending ahead)
        { split.endWait.record (.answered command response) with
          queue := later, waiting := false, launchPending := false }
        { whole.endWait.record (.answered command response) with
          queue := later, waiting := false, launchPending := false } :=
      { answered with launchPending := rfl }
    exact launched.enterBootloader .upload
  · exact (answered.sendNext rfl (.inl up)).attempt

theorem dispatch (alike : Alike (Lag pending ahead) split whole) (frame : Ezsp.Frame) :
    Alike (Lag pending ahead) (split.dispatch frame) (whole.dispatch frame) := by
  unfold Host.dispatch
  dsimp only
  rw [alike.queue]
  cases split.queue with
  | nil => exact alike.note _
  | cons command later =>
    dsimp only
    rw [alike.waiting]
    split_ifs with inFlight
    · exact alike.complete inFlight.1 frame command later
    · exact alike.note _

theorem handlePayload (alike : Alike (Lag pending ahead) split whole) (payload : List UInt8) :
    Alike (Lag pending ahead) (split.handlePayload payload) (whole.handlePayload payload) := by
  unfold Host.handlePayload
  dsimp only
  split
  · exact alike.acknowledge.note _
  · exact (alike.acknowledge.report _).dispatch _

theorem handleConnected (alike : Alike (Lag pending ahead) split whole)
    (up : pending.connected = true) (code : Wire.ResetCode) :
    Alike (Lag pending ahead) (split.handleConnected code) (whole.handleConnected code) := by
  have ready : Alike (Lag pending ahead) (split.ready code) (whole.ready code) :=
    ((alike.note (.linkUp code)).setMode .application).report .adapterReady
  rw [handleConnected_eq, handleConnected_eq, ready.waiting]
  split
  · exact (ready.note _).resend _ (.inl up)
  · exact ready.resend _ (.inl up)

end Alike

/-! What the link tells of frames queues nothing. -/

variable {frames : List Wire.Frame} {up : Bool} {event : LinkEvent}

theorem queue_resend_nil (empty : host.queue = []) (undertaking : Undertaking) :
    (host.resend undertaking).queue = [] := by
  have cannot : ¬ (host.CanSend ∧ host.queue ≠ []) := fun can => can.2 empty
  have kept (result : Except HostError Unit × Host) :
      (attempt undertaking result).queue = result.2.queue := by
    obtain ⟨_ | _, after⟩ := result <;> rfl
  rw [resend, kept, sendNext_idle_of_cannot host cannot]
  exact empty

theorem queue_dispatch_nil (empty : host.queue = []) (frame : Ezsp.Frame) :
    (host.dispatch frame).queue = [] := by
  simp only [dispatch, empty]
  exact empty

theorem queue_handleLinkEvent_nil (empty : host.queue = [])
    (told : event ∈ Wire.Frame.told up frames) : (host.handleLinkEvent event).queue = [] := by
  rcases Wire.Frame.mem_of_told told with ⟨payload, rfl⟩ | ⟨number, rfl, -⟩ | ⟨code, rfl, -⟩
  · have acknowledged : host.acknowledge.queue = [] := (queue_acknowledge host).trans empty
    simp only [handleLinkEvent, handlePayload]
    split
    · exact acknowledged
    · exact queue_dispatch_nil (host.acknowledge.report _) acknowledged _
  · exact queue_resend_nil (host.note _) empty _
  · have ready : ((host.note (.linkUp code)).setMode .application).queue = [] :=
      (queue_setMode _ _).trans empty
    simp only [handleLinkEvent, handleConnected]
    split
    · exact queue_resend_nil (Host.note (Host.report _ _) _) ready _
    · exact queue_resend_nil (Host.report _ _) ready _

namespace Alike

variable {pending : Endpoint} {ahead : List Wire.Frame} {split whole : Host}

theorem handleLinkEvent (alike : Alike (Lag pending ahead) split whole)
    (told : event ∈ Wire.Frame.told up frames)
    (raised : ∀ code, .resetAck code ∈ frames → pending.connected = true)
    (steady : ∀ number, .nak number ∈ frames → Lag.Steady pending ahead split.queue) :
    Alike (Lag pending ahead) (split.handleLinkEvent event) (whole.handleLinkEvent event) := by
  rcases Wire.Frame.mem_of_told told with ⟨payload, rfl⟩ | ⟨number, rfl, among⟩ | ⟨code, rfl, among⟩
  · exact alike.handlePayload payload
  · exact (alike.note _).resend _ (steady number among)
  · exact alike.handleConnected (raised code among) code

/-- What is told of frames is handled alike, unless a NAK that came while the link was
down has a command sent once `ahead` brings the link up. -/
theorem foldl_handleLinkEvent {events : List LinkEvent}
    (alike : Alike (Lag pending ahead) split whole)
    (told : ∀ event ∈ events, event ∈ Wire.Frame.told up frames)
    (raised : ∀ code, .resetAck code ∈ frames → pending.connected = true)
    (steady : ∀ number, .nak number ∈ frames → Lag.Steady pending ahead split.queue) :
    Alike (Lag pending ahead) (events.foldl Host.handleLinkEvent split)
      (events.foldl Host.handleLinkEvent whole) := by
  induction events generalizing split whole with
  | nil => exact alike
  | cons event later ih =>
    obtain ⟨first, rest⟩ := List.forall_mem_cons.mp told
    refine ih (alike.handleLinkEvent first raised steady) rest fun number among => ?_
    rcases steady number among with isUp | empty | never
    · exact .inl isUp
    · exact .inr (.inl (queue_handleLinkEvent_nil _ empty first))
    · exact .inr (.inr never)

/-- Once nothing is left to be read, a lag is none. -/
theorem caughtUp (alike : Alike (Lag pending ahead) split whole)
    (silent : Wire.Frame.told pending.connected ahead = []) :
    Alike Endpoint.SameNumbers split whole := by
  have up : split.link.endpoint.sequence.connected = pending.connected := alike.link.connected
  have quiet : ∀ number, .nak number ∉ ahead := by
    intro number among
    simpa [silent] using Wire.Frame.nakObserved_mem_told among pending.connected
  have read := alike.link.numbers (.inl quiet)
  rw [← up] at silent
  rw [Sequence.foldl_accept_of_told_nil _ silent] at read
  exact { alike with link := read }

end Alike
end Host
end NcpHost
