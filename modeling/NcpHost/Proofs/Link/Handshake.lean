import NcpHost.Link.Run
import NcpHost.Proofs.Endpoint.Frames
import NcpHost.Proofs.Link.Steps

/-! The wait for the answer to a reset. It lasts until the answer comes, the time
is up or the owner does something else, and it also ends with any frame that would
end the wait for an acknowledgement: such a frame may be left over from before the
reset. -/
namespace NcpHost.Link

/-- A law that each operation of a history obeys in the state it meets. -/
def Throughout (law : Link → World → Operation → Prop) (link : Link) (world : World) :
    List Operation → Prop
  | [] => True
  | operation :: later =>
    law link world operation ∧
      Throughout law (link.apply world operation).2.1 (link.apply world operation).2.2 later

/-- As far as the owner can tell, the handshake goes on: it has not sent again or
stopped waiting, and neither success nor failure is reported. -/
def Unresolved (link : Link) (world : World) : Operation → Prop
  | .reset | .send _ | .endWait => False
  | .receive bytes => ∀ code, .connected code ∉ (link.receive world bytes).1
  | .poll => (link.poll world).1 ≠ some .resetFailed
  | .acknowledge | .prepareResend | .fire | .port _ => True

/-- No frame arrives that would end the wait for an acknowledgement. -/
def Undisturbed (link : Link) : Operation → Prop
  | .receive bytes => ∀ frame ∈ link.endpoint.frames bytes,
      ¬ frame.EndsWait link.endpoint.sequence.expectedAck
  | _ => True

/-- The link is down and waits, and its timer is the one that was armed; only its
expiry may have come. -/
def Shaking (armed : Timer) (link : Link) : Prop :=
  link.connected = false ∧ ∃ due, link.timer = { armed with due }

theorem connected_event_iff (link : Link) (world : World) (bytes : List UInt8) :
    (∃ code, .connected code ∈ (link.receive world bytes).1) ↔
      ∃ code, .connected code ∈ (link.endpoint.receive bytes).signals := by
  have same (code : Wire.ResetCode) : .connected code ∈ (link.receive world bytes).1 ↔
      .connected code ∈ (link.endpoint.receive bytes).signals := by
    rw [receive_events, List.mem_filterMap]
    constructor
    · rintro ⟨signal, member, event⟩
      cases signal <;> simp_all [Signal.event?]
    · intro member
      exact ⟨_, member, rfl⟩
  simp only [same]

/-- While the link is down, bytes stop its timer exactly if a frame among them
ends waits or brings the link up. -/
theorem receive_stops_iff {armed : Timer} (link : Link) (world : World) (bytes : List UInt8)
    (running : armed.running = true) (shaking : Shaking armed link) :
    (link.receive world bytes).2.1.timer.running = false ↔
      (∃ frame ∈ link.endpoint.frames bytes,
        frame.EndsWait link.endpoint.sequence.expectedAck) ∨
      ∃ code, .connected code ∈ (link.receive world bytes).1 := by
  obtain ⟨down, due, same⟩ := shaking
  rw [stopped_iff (by rw [same]; exact running), connected_event_iff,
    (Endpoint.receive_frames _ _).1, Sequence.connected_mem_signals,
    ← Sequence.cancelTimer_mem_signals]

theorem Shaking.apply {armed : Timer} {link : Link} {world : World} {operation : Operation}
    (running : armed.running = true) (shaking : Shaking armed link)
    (unresolved : Unresolved link world operation) (undisturbed : Undisturbed link operation) :
    Shaking armed (link.apply world operation).2.1 := by
  cases operation with
  | reset | send | endWait => exact unresolved.elim
  | acknowledge | prepareResend | port => exact shaking
  | fire =>
    obtain ⟨down, due, same⟩ := shaking
    exact ⟨down, due || armed.running, by simp [Link.apply, Timer.fire, same]⟩
  | poll =>
    obtain ⟨down, due, same⟩ := shaking
    cases due with
    | true =>
      refine absurd ?_ unresolved
      simp [poll, same, Timer.collect, running, down]
    | false => simpa [Link.apply, poll, same, Timer.collect] using ⟨down, false, same⟩
  | receive bytes =>
    have quiet : .cancelTimer ∉ (link.endpoint.receive bytes).signals := by
      intro cancelled
      have stopped : (link.receive world bytes).2.1.timer.running = false := by
        rw [receive_link, if_pos cancelled]
        rfl
      rcases (receive_stops_iff link world bytes running shaking).mp stopped with
        ⟨frame, member, ends⟩ | ⟨code, member⟩
      · exact undisturbed frame member ends
      · exact unresolved code member
    have down : (link.endpoint.receive bytes).endpoint.connected = false := by
      cases up : (link.endpoint.receive bytes).endpoint.connected with
      | false => rfl
      | true => exact absurd (Endpoint.cancelTimer_of_connected shaking.1 up) quiet
    simp only [Link.apply, receive_link, if_neg quiet]
    exact ⟨down, shaking.2⟩

theorem Shaking.run {armed : Timer} {link : Link} {world : World} {history : List Operation}
    (running : armed.running = true) (shaking : Shaking armed link)
    (throughout : Throughout (fun link world operation =>
      Unresolved link world operation ∧ Undisturbed link operation) link world history) :
    Shaking armed (link.run world history).1 := by
  induction history generalizing link world with
  | nil => exact shaking
  | cons operation later ih =>
    obtain ⟨⟨unresolved, undisturbed⟩, rest⟩ := throughout
    exact ih (shaking.apply running unresolved undisturbed) rest

theorem shaking_reset {link : Link} {world : World} (sent : (link.reset world).1 = .ok ()) :
    Shaking (link.timer.stop.start world.now link.timeouts.resetAck) (link.reset world).2.1 := by
  rw [reset_eq] at sent ⊢
  refine ⟨rfl, false, ?_⟩
  dsimp only at sent ⊢
  rw [sent]
  rfl

/-- After a reset has gone out, and for as long as the handshake is unresolved and
no frame arrives that ends the wait for an acknowledgement, the timer that the
reset armed runs on, and its expiry is reported as a failed reset. In such a state
exactly those frames and the one that completes the handshake stop it. -/
theorem handshake_waits (link : Link) (world : World) (history : List Operation)
    (sent : (link.reset world).1 = .ok ())
    (throughout : Throughout (fun link world operation =>
        Unresolved link world operation ∧ Undisturbed link operation)
      (link.reset world).2.1 (link.reset world).2.2 history) :
    let state := (link.reset world).2.1.run (link.reset world).2.2 history
    let due := (state.1.apply state.2 .fire).2
    state.1.timer.running = true ∧
      state.1.timer.deadline = world.now + 1000 * link.timeouts.resetAck ∧
      state.1.timer.lastMs = some link.timeouts.resetAck ∧
      (due.1.apply due.2 .poll).1 = .event (some .resetFailed) ∧
      ∀ bytes, (state.1.receive state.2 bytes).2.1.timer.running = false ↔
        (∃ frame ∈ state.1.endpoint.frames bytes,
          frame.EndsWait state.1.endpoint.sequence.expectedAck) ∨
        ∃ code, .connected code ∈ (state.1.receive state.2 bytes).1 := by
  intro state due
  have shaking : Shaking _ state.1 := (shaking_reset sent).run rfl throughout
  obtain ⟨down, flag, same⟩ := shaking
  refine ⟨by rw [same]; rfl, by rw [same]; rfl, by rw [same]; rfl, ?_, ?_⟩
  · have collected : state.1.timer.fire.collect = (true, state.1.timer.fire.stop) :=
      Timer.collect_of_due (by rw [same]; rfl) (by simp [same, Timer.fire, Timer.start])
    have offline : Link.connected { state.1 with timer := state.1.timer.fire } = false := down
    simp only [due, Link.apply, poll, collected, offline, Bool.false_eq_true, if_false]
  · exact fun bytes => receive_stops_iff state.1 state.2 bytes rfl ⟨down, flag, same⟩

/-- A DATA frame from before the reset, with another acknowledgement than the
expected one, is acknowledged while the handshake goes on. -/
theorem handshake_waits_past_stale_data :
    let world : World := { port := { name := "line" } }
    let history : List Operation :=
      [.receive (Wire.Frame.data 6 3 false [0x55]).wire, .acknowledge, .port .unplug, .poll]
    let state := (Link.reset {} world).2.1.run (Link.reset {} world).2.2 history
    let due := (state.1.apply state.2 .fire).2
    state.1.timer.running = true ∧ (due.1.apply due.2 .poll).1 = .event (some .resetFailed) := by
  intro world history
  have events : ((Link.reset {} world).2.1.receive (Link.reset {} world).2.2
      (Wire.Frame.data 6 3 false [0x55]).wire).1 = [.ackMismatch 0 3, .payload [0x55]] := by
    decide +kernel
  have throughout : Throughout (fun link world operation =>
        Unresolved link world operation ∧ Undisturbed link operation)
      (Link.reset {} world).2.1 (Link.reset {} world).2.2 history := by
    refine ⟨⟨?_, ?_⟩, ⟨trivial, trivial⟩, ⟨trivial, trivial⟩, ⟨?_, trivial⟩, trivial⟩
    · intro code
      rw [events]
      simp
    · unfold Undisturbed
      decide +kernel
    · unfold Unresolved
      decide +kernel
  have waits := handshake_waits {} world history rfl throughout
  exact ⟨waits.1, waits.2.2.2.1⟩

/-- The wait is not bound to the reset's answer alone: an acknowledgement left over
from before ends it without any report, and the timer never expires. -/
theorem stale_ack_ends_handshake :
    ¬ ∀ (link : Link) (world : World) (history : List Operation),
      (link.reset world).1 = .ok () →
      Throughout Unresolved (link.reset world).2.1 (link.reset world).2.2 history →
      ((link.reset world).2.1.run (link.reset world).2.2 history).1.timer.running = true := by
  intro always
  have running := always {} { port := { name := "line" } }
    [.receive (Wire.Frame.ack 0).wire] rfl ⟨?_, trivial⟩
  · revert running
    decide +kernel
  · have events : ((Link.reset {} { port := { name := "line" } }).2.1.receive
        (Link.reset {} { port := { name := "line" } }).2.2 (Wire.Frame.ack 0).wire).1 =
          [.ackObserved 0] := by
      decide +kernel
    intro code
    rw [events]
    simp

end NcpHost.Link
