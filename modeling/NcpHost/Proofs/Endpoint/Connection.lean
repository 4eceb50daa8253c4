import NcpHost.Endpoint.Run
import NcpHost.Proofs.Endpoint.Account

/-! A link comes up by a reset acknowledgement that arrives while it is down, and signals
that once; only a reset takes it down. -/
namespace NcpHost
namespace Endpoint

/-- How often the link was signalled to be up. -/
def raised (signals : List Signal) : Nat := signals.countP (·.kind = .connected)

@[simp] theorem raised_append (front back : List Signal) :
    raised (front ++ back) = raised front + raised back :=
  List.countP_append

theorem raised_pos {signals : List Signal} :
    0 < raised signals ↔ ∃ code, .connected code ∈ signals := by
  rw [raised, List.countP_pos_iff]
  constructor
  · rintro ⟨signal, member, up⟩
    cases signal with
    | connected code => exact ⟨code, member⟩
    | payload | cancelTimer | ackObserved | nakObserved | ackMismatch | resetReceived =>
      cases of_decide_eq_true up
  · rintro ⟨code, member⟩
    exact ⟨_, member, rfl⟩

theorem raised_accept (endpoint : Endpoint) (frame : Wire.Frame) :
    raised (endpoint.accept frame).signals + endpoint.connected.toNat =
      (endpoint.accept frame).endpoint.connected.toNat := by
  cases frame with
  | data number acked resend payload =>
    by_cases expected : acked = endpoint.sequence.expectedAck <;>
      simp [accept, raised, connected, expected, Signal.kind]
  | resetAck code =>
    by_cases up : endpoint.sequence.connected = true <;>
      simp [accept, raised, connected, up, Signal.kind]
  | ack | nak | reset => simp [accept, raised, connected, Signal.kind]

/-- Reading signals that the link is up as often as it comes up. -/
theorem raised_receive (endpoint : Endpoint) (bytes : List UInt8) :
    raised (endpoint.receive bytes).signals + endpoint.connected.toNat =
      (endpoint.receive bytes).endpoint.connected.toNat := by
  induction bytes generalizing endpoint with
  | nil => exact Nat.zero_add _
  | cons byte rest ih =>
    have first : raised (endpoint.feed byte).signals + endpoint.connected.toNat =
        (endpoint.feed byte).endpoint.connected.toNat := by
      cases complete : endpoint.completed? byte with
      | none =>
        obtain ⟨silent, same⟩ := feed_of_none complete
        rw [silent, connected, connected, same]
        exact Nat.zero_add _
      | some frame =>
        rw [feed_of_some complete]
        exact raised_accept endpoint.anew frame
    have later := ih (endpoint.feed byte).endpoint
    rw [receive, raised_append, ← later, ← first]
    omega

theorem raised_apply (endpoint : Endpoint) {operation : Operation} (other : operation ≠ .reset) :
    raised (endpoint.apply operation).signals + endpoint.connected.toNat =
      (endpoint.apply operation).endpoint.connected.toNat := by
  cases operation with
  | reset => exact absurd rfl other
  | ack | data | rewind => exact Nat.zero_add _
  | receive bytes => exact raised_receive endpoint bytes

theorem raised_outcomes (endpoint : Endpoint) {stretch : List Operation}
    (free : .reset ∉ stretch) :
    raised ((endpoint.outcomes stretch).flatMap Outcome.signals) + endpoint.connected.toNat =
      (endpoint.run stretch).connected.toNat := by
  induction stretch generalizing endpoint with
  | nil => exact Nat.zero_add _
  | cons operation later ih =>
    obtain ⟨other, rest⟩ := List.ne_and_not_mem_of_not_mem_cons free
    have first := raised_apply endpoint (Ne.symm other)
    have whole := ih (endpoint.apply operation).endpoint rest
    rw [run, List.foldl_cons, ← run, ← whole, ← first, outcomes, List.flatMap_cons,
      raised_append]
    omega

/-- The start of a history, or any of its points right after a reset. -/
def Restarted (earlier : List Operation) : Prop :=
  earlier = [] ∨ ∃ before, earlier = before ++ [.reset]

theorem Restarted.connected {earlier : List Operation} (restarted : Restarted earlier) :
    (run {} earlier).connected = false := by
  rcases restarted with rfl | ⟨before, rfl⟩
  · rfl
  · rw [run, List.foldl_append]
    rfl

/-- Since the start or the last reset, the link has come up exactly if that was signalled, and it
was not signalled twice. -/
theorem connected_iff_signalled {earlier stretch : List Operation} (restarted : Restarted earlier)
    (free : .reset ∉ stretch) :
    let heard := ((run {} earlier).outcomes stretch).flatMap Outcome.signals
    ((run {} (earlier ++ stretch)).connected = true ↔ ∃ code, .connected code ∈ heard) ∧
      raised heard ≤ 1 := by
  intro heard
  have counted : raised heard + (run {} earlier).connected.toNat =
      ((run {} earlier).run stretch).connected.toNat := raised_outcomes _ free
  rw [restarted.connected] at counted
  have joined : run {} (earlier ++ stretch) = (run {} earlier).run stretch := List.foldl_append
  rw [joined, ← raised_pos]
  cases up : ((run {} earlier).run stretch).connected with
  | true =>
    have once : raised heard = 1 := by rwa [up] at counted
    exact ⟨iff_of_true rfl (once ▸ Nat.one_pos), once.le⟩
  | false =>
    have never : raised heard = 0 := by rwa [up] at counted
    exact ⟨iff_of_false nofun (by rw [never]; exact Nat.lt_irrefl 0), by omega⟩

/-- Only a reset acknowledgement, to a link that is down, signals that the link is up. -/
theorem connected_of_accept {endpoint : Endpoint} {frame : Wire.Frame} {head tail : List Signal}
    {code : Wire.ResetCode}
    (told : (endpoint.accept frame).signals = head ++ .connected code :: tail) :
    frame = .resetAck code ∧ endpoint.connected = false ∧ head = [.cancelTimer] := by
  have member : .connected code ∈ (endpoint.accept frame).signals := by simp [told]
  cases frame with
  | data number acked resend payload =>
    by_cases expected : acked = endpoint.sequence.expectedAck <;> simp [accept, expected] at member
  | ack | nak | reset => simp [accept] at member
  | resetAck answered =>
    cases up : endpoint.connected with
    | true => simp [accept, up] at member
    | false =>
      simp only [accept, up, Bool.false_eq_true, if_false] at told
      rcases head with _ | ⟨first, _ | ⟨second, more⟩⟩
      · cases (List.cons.inj told).1
      · obtain ⟨rfl, rest⟩ := List.cons.inj told
        cases (List.cons.inj rest).1
        exact ⟨rfl, rfl, rfl⟩
      · simp at told

/-- What brings a link up: a flag that closes, in a link that is down, an uncorrupted reset
acknowledgement for the right version with one of the accepted codes. -/
theorem connected_of_resetAck {endpoint : Endpoint} {bytes : List UInt8}
    {front back : List Signal} {code : Wire.ResetCode}
    (split : (endpoint.receive bytes).signals = front ++ .connected code :: back) :
    ∃ early late byte more, bytes = early ++ Wire.flag :: late ∧
      let pending := (endpoint.receive early).endpoint
      pending.connected = false ∧ pending.corrupt = false ∧
      Wire.Carries pending.buffer
        (Wire.Control.resetAckByte :: Wire.protocolVersion :: byte :: more) ∧
      byte ∈ Wire.handshakeCodes ∧ code = .ofByte byte ∧
      front = (endpoint.receive early).signals ++ [.cancelTimer] := by
  obtain ⟨early, late, frame, head, tail, rfl, complete, told, rfl⟩ := signal_of_frame split
  rw [feed_of_some complete] at told
  obtain ⟨rfl, down, rfl⟩ := connected_of_accept told
  obtain ⟨-, clean, read⟩ := completed?_eq_some complete
  obtain ⟨byte, more, carries, accepted, rfl⟩ := Wire.Frame.ofStuffed_resetAck_iff.mp read
  exact ⟨early, late, byte, more, rfl, down, clean, carries, accepted, rfl, rfl⟩

end Endpoint
end NcpHost
