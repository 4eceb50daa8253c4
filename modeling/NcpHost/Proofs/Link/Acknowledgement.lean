import NcpHost.Proofs.Endpoint.Numbers
import NcpHost.Proofs.Link.Handshake

/-! The wait for the acknowledgement of a DATA frame. Only DATA frames have their
acknowledgement compared with the expected one; an ACK frame ends the wait whatever its
number, and so do a NAK and a reset. -/
namespace NcpHost

/-- A frame that acknowledges every frame before number `expected`, or asks for one of
them again. -/
def Wire.Frame.Answers (expected : UInt8) : Wire.Frame → Prop
  | .data _ acked _ _ | .ack acked => acked = expected
  | .nak _ => True
  | .reset | .resetAck _ => False

instance (expected : UInt8) : DecidablePred (Wire.Frame.Answers expected)
  | .data _ acked _ _ | .ack acked => inferInstanceAs (Decidable (acked = expected))
  | .nak _ => .isTrue trivial
  | .reset | .resetAck _ => .isFalse id

namespace Link

/-- Neither sends nor calls off a wait. -/
def Operation.LeavesWait : Operation → Prop
  | .reset | .send _ | .endWait => False
  | .acknowledge | .prepareResend | .receive _ | .fire | .poll | .port _ => True

/-- The acknowledgement expected for frame `number` after so many steps back. -/
def awaited (number : UInt8) (rewinds : Nat) : Nat := (number.toNat + 1 + 7 * rewinds) % 8

theorem awaited_succ (number : UInt8) (rewinds : Nat) :
    awaited number (rewinds + 1) = (awaited number rewinds + 7) % 8 := by
  unfold awaited
  omega

/-- The link is up, and while its timer runs it is the one that was armed and `number` is
the acknowledgement that is expected, and the number of the next frame. -/
structure Awaiting (armed : Timer) (number : Nat) (link : Link) : Prop where
  connected : link.connected = true
  timer : link.timer.running = true → ∃ due, link.timer = { armed with due }
  expectedAck : link.timer.running = true → link.endpoint.sequence.expectedAck.toNat = number
  nextFrame : link.timer.running = true → link.endpoint.sequence.nextFrame.toNat = number

/-- On a link that is up, bytes stop a running timer exactly if a frame among them ends
waits. -/
theorem stopped_iff_of_connected {link : Link} (world : World) (bytes : List UInt8)
    (up : link.connected = true) (running : link.timer.running = true) :
    (link.receive world bytes).2.1.timer.running = false ↔
      ∃ frame ∈ link.endpoint.frames bytes,
        frame.EndsWait link.endpoint.sequence.expectedAck := by
  have connected : link.endpoint.sequence.connected = true := up
  rw [stopped_iff running, (Endpoint.receive_frames _ _).1, Sequence.cancelTimer_mem_signals,
    connected]
  simp

namespace Awaiting

variable {armed : Timer} {number : Nat} {link : Link}

/-- A timer that runs on has seen no NAK, which alone could have moved the next number. -/
theorem receive (awaiting : Awaiting armed number link) (world : World) (bytes : List UInt8) :
    Awaiting armed number (link.receive world bytes).2.1 := by
  have running (after : (link.receive world bytes).2.1.timer.running = true) :
      link.timer.running = true := timer_of_receive after ▸ after
  constructor
  · rw [Link.connected, receive_endpoint]
    exact (Endpoint.connected_receive _ bytes).mpr (.inl awaiting.connected)
  · intro after
    rw [timer_of_receive after]
    exact awaiting.timer (running after)
  · intro after
    rw [receive_endpoint, Endpoint.expectedAck_receive]
    exact awaiting.expectedAck (running after)
  · intro after
    have unasked : ∀ asked, .nak asked ∉ link.endpoint.frames bytes := by
      intro asked member
      have stopped := (stopped_iff_of_connected world bytes awaiting.connected
        (running after)).mpr ⟨_, member, trivial⟩
      exact absurd after (Bool.eq_false_iff.mp stopped)
    rw [receive_endpoint, Endpoint.nextFrame_receive_of_not_mem unasked]
    exact awaiting.nextFrame (running after)

theorem poll (awaiting : Awaiting armed number link) (world : World) :
    Awaiting armed number (link.poll world).2.1 := by
  rcases poll_cases link world with same | ⟨-, -, same⟩ | ⟨-, -, same⟩
  · rw [same]
    exact awaiting
  all_goals
    rw [same]
    exact ⟨awaiting.connected, fun running => absurd running Bool.false_ne_true,
      fun running => absurd running Bool.false_ne_true,
      fun running => absurd running Bool.false_ne_true⟩

/-- A step back makes the number before the one that is due the next, and the one that is
due the expected. -/
theorem prepareResend (awaiting : Awaiting armed number link) :
    Awaiting armed ((number + 7) % 8) link.prepareResend where
  connected := awaiting.connected
  timer := awaiting.timer
  expectedAck running := by rw [← awaiting.nextFrame running]; exact toNat_preceding _
  nextFrame running := by rw [← awaiting.nextFrame running]; exact toNat_preceding _

theorem fire (awaiting : Awaiting armed number link) :
    Awaiting armed number { link with timer := link.timer.fire } where
  connected := awaiting.connected
  timer running := by
    obtain ⟨due, same⟩ := awaiting.timer running
    exact ⟨due || armed.running, by simp [Timer.fire, same]⟩
  expectedAck := awaiting.expectedAck
  nextFrame := awaiting.nextFrame

theorem apply {taken : UInt8} {rewinds : Nat} {operation : Operation}
    (awaiting : Awaiting armed (awaited taken rewinds) link) (world : World)
    (left : operation.LeavesWait) :
    Awaiting armed (awaited taken (rewinds + [operation].count .prepareResend))
      (link.apply world operation).2.1 := by
  cases operation with
  | reset | send | endWait => exact left.elim
  | prepareResend =>
    rw [show [Operation.prepareResend].count .prepareResend = 1 from rfl, awaited_succ]
    exact awaiting.prepareResend
  | acknowledge =>
    exact ⟨awaiting.connected, awaiting.timer, awaiting.expectedAck, awaiting.nextFrame⟩
  | receive bytes => exact awaiting.receive world bytes
  | fire => exact awaiting.fire
  | poll => exact awaiting.poll world
  | port => exact awaiting

theorem run {taken : UInt8} {rewinds : Nat} {history : List Operation}
    (awaiting : Awaiting armed (awaited taken rewinds) link) (world : World)
    (left : ∀ operation ∈ history, operation.LeavesWait) :
    Awaiting armed (awaited taken (rewinds + history.count .prepareResend))
      (link.run world history).1 := by
  induction history generalizing link world rewinds with
  | nil => exact awaiting
  | cons operation later ih =>
    have first := awaiting.apply world (left operation List.mem_cons_self)
    have rest := ih first (link.apply world operation).2.2
      fun each member => left each (List.mem_cons_of_mem _ member)
    rw [Nat.add_assoc, ← List.count_append] at rest
    exact rest

end Awaiting

theorem awaiting_send {link : Link} {world : World} {payload : List UInt8}
    (up : link.connected = true) (sent : (link.send world payload).1.isOk = true) :
    Awaiting (link.timer.stop.start world.now link.timeouts.dataAck)
      (awaited link.endpoint.sequence.nextFrame 0) (link.send world payload).2.1 := by
  rw [send_eq] at sent ⊢
  dsimp only at sent ⊢
  rw [if_pos sent]
  exact ⟨up, fun _ => ⟨false, rfl⟩, fun _ => toNat_following _, fun _ => toNat_following _⟩

/-- After a DATA frame has gone out on a link that is up, and until the owner sends again or
calls the wait off, the timer that the frame armed runs on unless it expires or bytes stop
it; and bytes stop it exactly if there is an ACK, a NAK or a reset among their valid frames,
whatever its number, or a DATA frame with the expected acknowledgement: the number after
that of the frame, less one for each step back since. -/
theorem acknowledgement_awaited (link : Link) (world : World) (payload : List UInt8)
    (history : List Operation) (up : link.connected = true)
    (sent : (link.send world payload).1.isOk = true)
    (left : ∀ operation ∈ history, operation.LeavesWait) :
    let after := (link.send world payload).2
    let state := after.1.run after.2 history
    let expected :=
      UInt8.ofNat (awaited link.endpoint.sequence.nextFrame (history.count .prepareResend))
    after.1.timer.running = true ∧
      (state.1.timer.running = true →
        state.1.timer.deadline = world.now + 1000 * link.timeouts.dataAck ∧
        ∀ bytes, (state.1.receive state.2 bytes).2.1.timer.running = false ↔
          ∃ frame ∈ state.1.endpoint.frames bytes, frame.EndsWait expected) := by
  intro after state expected
  have awaiting : Awaiting _ _ state.1 := (awaiting_send up sent).run after.2 left
  refine ⟨?_, fun running => ⟨?_, fun bytes => ?_⟩⟩
  · simp only [after]
    rw [send_eq] at sent ⊢
    dsimp only at sent ⊢
    rw [if_pos sent]
    rfl
  · obtain ⟨due, same⟩ := awaiting.timer running
    rw [same]
    rfl
  · have same : state.1.endpoint.sequence.expectedAck = expected := by
      rw [← UInt8.ofNat_toNat (x := state.1.endpoint.sequence.expectedAck),
        awaiting.expectedAck running, Nat.zero_add]
    rw [← same]
    exact stopped_iff_of_connected state.2 bytes awaiting.connected running

/-- The third frame, number 2, waits for acknowledgement 3; after a step back it waits for 2. -/
theorem acknowledgement_awaited_after_step_back :
    let up := Link.run {} { port := { name := "line" } }
      [.reset, .receive (Wire.Frame.resetAck .powerOn).wire, .send [0x51], .send [0x52]]
    let after := (up.1.send up.2 [0x53]).2
    let history : List Operation :=
      [.receive (Wire.Frame.data 4 7 false [0x61]).wire, .acknowledge, .prepareResend]
    let state := after.1.run after.2 history
    state.1.timer.running = true ∧
      (state.1.receive state.2 (Wire.Frame.data 5 3 false []).wire).2.1.timer.running = true ∧
      (state.1.receive state.2 (Wire.Frame.data 5 2 false []).wire).2.1.timer.running = false := by
  intro up after history state
  have left : ∀ operation ∈ history, operation.LeavesWait := by
    intro operation member
    simp only [history, List.mem_cons, List.not_mem_nil, or_false] at member
    rcases member with rfl | rfl | rfl <;> trivial
  have connected : up.1.connected = true := by decide +kernel
  have sent : (up.1.send up.2 [0x53]).1.isOk = true := by decide +kernel
  obtain ⟨-, awaited⟩ := acknowledgement_awaited up.1 up.2 [0x53] history connected sent left
  have stops := (awaited (by decide +kernel)).2
  refine ⟨by decide +kernel, ?_, ?_⟩
  · rw [← Bool.not_eq_false, stops]
    decide +kernel
  · rw [stops]
    decide +kernel

/-- The number of an ACK frame is not compared: one that acknowledges another frame ends the
wait too. -/
theorem foreign_acknowledgement_ends_wait :
    ¬ ∀ (history : List Operation) (payload bytes : List UInt8),
      let before := Link.run {} { port := { name := "line" } } history
      let after := (before.1.send before.2 payload).2
      let number := before.1.endpoint.sequence.nextFrame
      before.1.connected = true → (before.1.send before.2 payload).1.isOk = true →
      (after.1.receive after.2 bytes).2.1.timer.running = false →
      ∃ frame ∈ after.1.endpoint.frames bytes,
        frame.Answers ((number + 1) % Wire.Control.modulus) := by
  intro only
  have answered := only [.reset, .receive (Wire.Frame.resetAck .powerOn).wire] [0x55]
    (Wire.Frame.ack 5).wire (by decide +kernel) (by decide +kernel) (by decide +kernel)
  revert answered
  decide +kernel

end Link
end NcpHost
