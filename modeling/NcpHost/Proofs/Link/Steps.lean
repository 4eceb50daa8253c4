import NcpHost.Link.Basic
import NcpHost.Proofs.Endpoint.Frames

/-! What each step of a link does to its timer and to the world, one equation for
each outcome. -/
namespace NcpHost

/-- What the world sees of a signal. -/
def Signal.effect? : Signal → Option Effect
  | .cancelTimer => some .waitEnded
  | .connected code => some (.noted (.resetAcknowledged code))
  | _ => none

namespace Timer

@[simp] theorem stop_stop (timer : Timer) : timer.stop.stop = timer.stop := rfl

@[simp] theorem running_stop (timer : Timer) : timer.stop.running = false := rfl

theorem collect_of_due {timer : Timer} (running : timer.running = true) (due : timer.due = true) :
    timer.collect = (true, timer.stop) := by
  simp [collect, running, due]

end Timer

namespace AckPolicy

@[simp] theorem acknowledged_acknowledged (policy : AckPolicy) :
    policy.acknowledged.acknowledged = policy.acknowledged := by
  cases policy <;> rfl

end AckPolicy

namespace Link

variable {link : Link} {world : World}

/-- However many signals end the wait, it ends as if by one. -/
theorem foldl_heed_link (signals : List Signal) (link : Link) (world : World) :
    (signals.foldl heed (link, world)).1 =
      if .cancelTimer ∈ signals then (link.endWait world).1 else link := by
  induction signals generalizing link world with
  | nil => rfl
  | cons signal rest ih =>
    rw [List.foldl_cons]
    cases signal with
    | cancelTimer =>
      simp only [heed, ih, List.mem_cons, true_or, if_true]
      split <;> simp [endWait]
    | payload | ackObserved | nakObserved | connected | ackMismatch | resetReceived =>
      simp only [heed, ih, List.mem_cons, reduceCtorEq, false_or, endWait]

theorem foldl_heed_world (signals : List Signal) (link : Link) (world : World) :
    (signals.foldl heed (link, world)).2 =
      { world with journal := world.journal ++ signals.filterMap Signal.effect? } := by
  induction signals generalizing link world with
  | nil => simp
  | cons signal rest ih =>
    rw [List.foldl_cons]
    cases signal with
    | cancelTimer | connected =>
      simp [heed, ih, endWait, World.note, World.record, Signal.effect?]
    | payload | ackObserved | nakObserved | ackMismatch | resetReceived =>
      simp [heed, ih, Signal.effect?, List.filterMap_cons]

/-- Reading bytes: the endpoint takes them in, and the wait ends if a signal says
so. -/
theorem receive_link (link : Link) (world : World) (bytes : List UInt8) :
    (link.receive world bytes).2.1 =
      if .cancelTimer ∈ (link.endpoint.receive bytes).signals then
        { link with
          endpoint := (link.endpoint.receive bytes).endpoint
          timer := link.timer.stop
          policy := link.policy.acknowledged }
      else { link with endpoint := (link.endpoint.receive bytes).endpoint } := by
  simp only [receive, foldl_heed_link, endWait]

theorem receive_endpoint (link : Link) (world : World) (bytes : List UInt8) :
    (link.receive world bytes).2.1.endpoint = (link.endpoint.receive bytes).endpoint := by
  rw [receive_link]
  split <;> rfl

/-- A timer that runs after bytes were read is the one that ran before. -/
theorem timer_of_receive {link : Link} {world : World} {bytes : List UInt8}
    (running : (link.receive world bytes).2.1.timer.running = true) :
    (link.receive world bytes).2.1.timer = link.timer := by
  rw [receive_link] at running ⊢
  split at running <;> rename_i cancelled
  · contradiction
  · rw [if_neg cancelled]

/-- Bytes stop a running timer exactly if they signal so. -/
theorem stopped_iff {link : Link} {bytes : List UInt8} (running : link.timer.running = true)
    (world : World) :
    (link.receive world bytes).2.1.timer.running = false ↔
      .cancelTimer ∈ (link.endpoint.receive bytes).signals := by
  rw [receive_link]
  split <;> rename_i cancelled
  · simp [cancelled]
  · simp [cancelled, running]

/-- Bytes start no wait, and take no link down. -/
theorem shaking_of_receive {link : Link} {world : World} {bytes : List UInt8}
    (running : (link.receive world bytes).2.1.timer.running = true)
    (down : (link.receive world bytes).2.1.connected = false) :
    link.timer.running = true ∧ link.connected = false := by
  constructor
  · rw [← timer_of_receive running]
    exact running
  · refine Bool.eq_false_iff.mpr fun up => ?_
    rw [connected, receive_endpoint, Bool.eq_false_iff] at down
    exact down ((Endpoint.connected_receive _ bytes).mpr (.inl up))

theorem receive_world (link : Link) (world : World) (bytes : List UInt8) :
    (link.receive world bytes).2.2 =
      { world with
        journal := world.journal ++ (link.endpoint.receive bytes).notes.map .noted ++
          (link.endpoint.receive bytes).signals.filterMap Signal.effect? } := by
  simp only [receive, foldl_heed_world, World.notes]

theorem receive_events (link : Link) (world : World) (bytes : List UInt8) :
    (link.receive world bytes).1 =
      (link.endpoint.receive bytes).signals.filterMap Signal.event? := rfl

theorem sendAwaiting_eq (frame : Wire.Frame) (ms : Nat) :
    link.sendAwaiting world frame ms =
      ((world.transmit (.frame frame)).1,
        if (world.transmit (.frame frame)).1.isOk then
          { link with timer := link.timer.start world.now ms }
        else link,
        (world.transmit (.frame frame)).2) := by
  obtain ⟨result, after, outcome⟩ : ∃ result after,
      world.transmit (.frame frame) = (result, after) := ⟨_, _, rfl⟩
  have same : after.now = world.now := congrArg (fun state => state.2.now) outcome.symm
  unfold sendAwaiting
  rw [outcome]
  cases result with
  | ok => simp only [same, Except.isOk, Except.toBool, if_true]
  | error error => rfl

/-- A reset forgets the connection; the wait for its answer begins once the port
has taken it whole. -/
theorem reset_eq (link : Link) (world : World) :
    let sent := world.transmit (.frame .reset)
    link.reset world = (sent.1,
      { link with
        endpoint := link.endpoint.reset.2
        timer :=
          if sent.1.isOk then link.timer.stop.start world.now link.timeouts.resetAck
          else link.timer.stop },
      if sent.1.isOk then sent.2.note (.resetSent sent.2.port.name) else sent.2) := by
  intro sent
  cases outcome : sent.1 with
  | ok | error =>
    simp [reset, Endpoint.reset, sendAwaiting_eq, sent, outcome, Except.isOk, Except.toBool]

/-- A DATA frame takes its number in any case; the wait for its acknowledgement
begins once the port has taken it whole. -/
theorem send_eq (link : Link) (world : World) (payload : List UInt8) :
    let sent := (world.notes (Endpoint.oversized payload)).transmit
      (.frame (link.endpoint.data payload).1)
    link.send world payload = (sent.1,
      { link with
        endpoint := (link.endpoint.data payload).2
        timer :=
          if sent.1.isOk then link.timer.stop.start world.now link.timeouts.dataAck
          else link.timer.stop },
      sent.2) := by
  intro sent
  cases outcome : sent.1 with
  | ok | error =>
    simp [send, sendAwaiting_eq, sent, outcome, Except.isOk, Except.toBool]

theorem send_journal (link : Link) (world : World) (payload : List UInt8) :
    let frame := (link.endpoint.data payload).1
    (link.send world payload).2.2.journal =
      world.journal ++ (Endpoint.oversized payload).map .noted ++
        [.sent (.frame frame) (world.port.write frame.wire).1] := by
  intro frame
  rw [send_eq]
  rfl

theorem reset_journal (link : Link) (world : World) : ∃ notes : List Note,
    (link.reset world).2.2.journal = world.journal ++
      .sent (.frame .reset) (world.port.write Wire.Frame.reset.wire).1 :: notes.map .noted := by
  rw [reset_eq]
  dsimp only
  split
  · exact ⟨[_], List.append_assoc ..⟩
  · exact ⟨[], rfl⟩

/-- Nothing has expired, or a running timer has, and what it was for is named after the
connection. -/
theorem poll_cases (link : Link) (world : World) :
    link.poll world = (none, link, world) ∨
      link.timer.running = true ∧ link.connected = false ∧
        link.poll world = (some .resetFailed, { link with timer := link.timer.stop },
          world.note (.resetUnanswered link.timeouts.resetAck)) ∨
      link.timer.running = true ∧ link.connected = true ∧
        link.poll world = (some (.ackTimeout link.policy.timeout.1),
          { link with timer := link.timer.stop, policy := link.policy.timeout.2 },
          world.note (.dataUnacknowledged link.timeouts.dataAck link.policy.timeout.1)) := by
  cases expired : link.timer.running && link.timer.due with
  | false => exact .inl (by simp [poll, Timer.collect, expired])
  | true =>
    have running := (Bool.and_eq_true_iff.mp expired).1
    cases up : link.connected with
    | false => exact .inr (.inl ⟨running, rfl, by simp [poll, Timer.collect, expired, up]⟩)
    | true => exact .inr (.inr ⟨running, rfl, by simp [poll, Timer.collect, expired, up]⟩)

theorem poll_some {event : LinkEvent} (expired : (link.poll world).1 = some event) :
    link.timer.running = true ∧
      (link.connected = false ∧ event = .resetFailed ∨
        link.connected = true ∧ event = .ackTimeout link.policy.timeout.1) := by
  rcases poll_cases link world with none | ⟨running, down, failed⟩ | ⟨running, up, silent⟩
  · rw [none] at expired
    cases expired
  · rw [failed] at expired
    exact ⟨running, .inl ⟨down, (Option.some.inj expired).symm⟩⟩
  · rw [silent] at expired
    exact ⟨running, .inr ⟨up, (Option.some.inj expired).symm⟩⟩

/-- A running timer that is due is told of. -/
theorem poll_of_due (running : link.timer.running = true) (due : link.timer.due = true)
    (world : World) : ∃ event, (link.poll world).1 = some event := by
  have collected := Timer.collect_of_due running due
  cases up : link.connected with
  | false => exact ⟨.resetFailed, by simp [poll, collected, up]⟩
  | true => exact ⟨.ackTimeout link.policy.timeout.1, by simp [poll, collected, up]⟩

theorem poll_endpoint (link : Link) (world : World) :
    (link.poll world).2.1.endpoint = link.endpoint := by
  rcases poll_cases link world with same | ⟨-, -, same⟩ | ⟨-, -, same⟩
  all_goals rw [same]

theorem poll_journal (link : Link) (world : World) :
    ∃ notes : List Note, (link.poll world).2.2.journal = world.journal ++ notes.map .noted := by
  rcases poll_cases link world with same | ⟨-, -, same⟩ | ⟨-, -, same⟩
  · exact ⟨[], by rw [same, List.map_nil, List.append_nil]⟩
  all_goals
    rw [same]
    exact ⟨[_], rfl⟩

end Link
end NcpHost
