import NcpHost.Proofs.Endpoint.Losses

/-! Every signal comes from a frame that some flag closes, and every segment that a flag
closes is either counted once or a frame of the reset handshake. -/
namespace NcpHost

namespace Signal

/-- Signals without what they carry. -/
inductive Kind where
  | payload
  | cancelTimer
  | ackObserved
  | nakObserved
  | connected
  | ackMismatch
  | resetReceived
  deriving DecidableEq, Repr

def kind : Signal → Kind
  | .payload _ => .payload
  | .cancelTimer => .cancelTimer
  | .ackObserved _ => .ackObserved
  | .nakObserved _ => .nakObserved
  | .connected _ => .connected
  | .ackMismatch .. => .ackMismatch
  | .resetReceived => .resetReceived

/-- What is signalled of the acknowledgement in a DATA frame. -/
def judging (expected acked : UInt8) : Signal :=
  if acked = expected then .cancelTimer else .ackMismatch expected acked

end Signal

/-- Frames of the reset handshake. -/
def Wire.Frame.greets : Frame → Bool
  | .reset | .resetAck _ => true
  | .data .. | .ack _ | .nak _ => false

/-- The segments that the tally records, frames and losses. -/
def Tally.recorded (tally : Tally) : Nat :=
  tally.dataReceived + tally.acksReceived + tally.naksReceived +
    tally.checksumErrors + tally.framingErrors + tally.rejected

namespace Endpoint
open Wire (Carries Control)

/-- The segment in progress is a frame of the reset handshake: a reset, or an
acknowledgement of one that names the version and an accepted code. -/
def Greets (pending : Endpoint) : Prop :=
  pending.corrupt = false ∧
    ((∃ content, Carries pending.buffer (Control.resetByte :: content)) ∨
      ∃ code more, code ∈ Wire.handshakeCodes ∧
        Carries pending.buffer (Control.resetAckByte :: Wire.protocolVersion :: code :: more))

theorem greets_iff {pending : Endpoint} :
    pending.Greets ↔ ((pending.completed? Wire.flag).any Wire.Frame.greets) = true := by
  cases spoilt : pending.corrupt with
  | true => simp [Greets, completed?, spoilt]
  | false =>
    simp only [Greets, completed?, spoilt, true_and, if_true]
    constructor
    · rintro (⟨content, carries⟩ | ⟨code, more, accepted, carries⟩)
      · rw [Wire.Frame.ofStuffed_reset_iff.mpr ⟨content, carries⟩]
        rfl
      · rw [Wire.Frame.ofStuffed_resetAck_iff.mpr ⟨code, more, carries, accepted, rfl⟩]
        rfl
    · intro greets
      cases read : Wire.Frame.ofStuffed pending.buffer with
      | error error => rw [read] at greets; cases greets
      | ok frame =>
        rw [read] at greets
        cases frame with
        | data | ack | nak => cases greets
        | reset => exact .inl (Wire.Frame.ofStuffed_reset_iff.mp read)
        | resetAck code =>
          obtain ⟨byte, more, carries, accepted, -⟩ := Wire.Frame.ofStuffed_resetAck_iff.mp read
          exact .inr ⟨byte, more, accepted, carries⟩

instance : DecidablePred Greets := fun _ => decidable_of_iff' _ greets_iff

/-- The states in which a flag among `bytes` closes something. -/
def closings (endpoint : Endpoint) : List UInt8 → List Endpoint
  | [] => []
  | byte :: rest =>
    (if byte = Wire.flag ∧ endpoint.Pending then [endpoint] else []) ++
      (endpoint.feed byte).endpoint.closings rest

/-- The tally's growth against what was signalled and what was closed in the meantime. -/
structure Accounts (before after : Tally) (signals : List Signal) (closed : List Endpoint) :
    Prop where
  data : after.dataReceived = before.dataReceived + signals.countP (·.kind = .payload)
  acks : after.acksReceived = before.acksReceived + signals.countP (·.kind = .ackObserved)
  naks : after.naksReceived = before.naksReceived + signals.countP (·.kind = .nakObserved)
  mismatches :
    after.ackMismatches = before.ackMismatches + signals.countP (·.kind = .ackMismatch)
  segments : after.recorded + closed.countP (Greets ·) = before.recorded + closed.length

namespace Accounts

variable {before middle after : Tally} {signals more : List Signal} {closed rest : List Endpoint}

theorem refl (tally : Tally) : Accounts tally tally [] [] := ⟨rfl, rfl, rfl, rfl, rfl⟩

theorem trans (first : Accounts before middle signals closed)
    (later : Accounts middle after more rest) :
    Accounts before after (signals ++ more) (closed ++ rest) where
  data := by rw [later.data, first.data, List.countP_append, Nat.add_assoc]
  acks := by rw [later.acks, first.acks, List.countP_append, Nat.add_assoc]
  naks := by rw [later.naks, first.naks, List.countP_append, Nat.add_assoc]
  mismatches := by rw [later.mismatches, first.mismatches, List.countP_append, Nat.add_assoc]
  segments := by
    have one := first.segments
    have other := later.segments
    rw [List.countP_append, List.length_append]
    omega

end Accounts

variable {endpoint : Endpoint}

/-- A frame is recorded by the count of its kind, or is one of the handshake. -/
theorem accounts_accept {frame : Wire.Frame}
    (complete : endpoint.completed? Wire.flag = some frame) :
    Accounts endpoint.tally (endpoint.anew.accept frame).endpoint.tally
      (endpoint.anew.accept frame).signals [endpoint] := by
  have greets : endpoint.Greets ↔ frame.greets = true := by
    rw [greets_iff, complete]
    rfl
  cases frame with
  | data number acked resend payload =>
    by_cases expected : acked = endpoint.sequence.expectedAck <;>
      constructor <;>
      simp [accept, anew, expected, Tally.recorded, Signal.kind, greets, Wire.Frame.greets] <;>
      omega
  | resetAck code =>
    by_cases up : endpoint.sequence.connected = true <;>
      constructor <;>
      simp [accept, anew, connected, up, Signal.kind, greets, Wire.Frame.greets]
  | ack | nak | reset =>
    constructor <;>
      simp [accept, anew, Tally.recorded, Signal.kind, greets, Wire.Frame.greets] <;>
      omega

theorem accounts_loss {loss : Wire.Loss} (loses : endpoint.Loses loss) :
    Accounts endpoint.tally (endpoint.tally + loss.once) [] [endpoint] := by
  have none : ¬ endpoint.Greets := by
    rw [greets_iff, completed_of_loses loses]
    decide
  cases loss <;> constructor <;>
    simp [Tally.add_def, Tally.add, Wire.Loss.once, Tally.recorded, none] <;> omega

theorem close_of_not_pending (nothing : ¬ endpoint.Pending) :
    endpoint.close = { endpoint := endpoint.anew } := by
  obtain ⟨empty, clean⟩ := not_or.mp nothing
  rw [close, if_neg clean, not_ne_iff.mp empty]
  rfl

theorem accounts_feed (endpoint : Endpoint) (byte : UInt8) :
    Accounts endpoint.tally (endpoint.feed byte).endpoint.tally (endpoint.feed byte).signals
      (if byte = Wire.flag ∧ endpoint.Pending then [endpoint] else []) := by
  by_cases closes : byte = Wire.flag
  · subst closes
    by_cases pending : endpoint.Pending
    · rw [if_pos ⟨rfl, pending⟩]
      rcases pending_iff.mp pending with complete | ⟨loss, loses⟩
      · obtain ⟨frame, complete⟩ := Option.isSome_iff_exists.mp complete
        rw [feed_of_some complete]
        exact accounts_accept complete
      · obtain ⟨nothing, left⟩ := close_of_loses loses
        change Accounts _ endpoint.close.endpoint.tally endpoint.close.signals _
        rw [nothing, left]
        exact accounts_loss loses
    · rw [if_neg fun both => pending both.2]
      change Accounts _ endpoint.close.endpoint.tally endpoint.close.signals _
      rw [close_of_not_pending pending]
      exact .refl _
  · obtain ⟨silent, same⟩ := feed_inside endpoint closes
    have counted : (endpoint.feed byte).endpoint.tally = endpoint.tally := by
      change (endpoint.feed byte).endpoint.anew.tally = endpoint.anew.tally
      rw [same]
    rw [if_neg fun both => closes both.1, silent, counted]
    exact .refl _

theorem accounts_receive (endpoint : Endpoint) (bytes : List UInt8) :
    Accounts endpoint.tally (endpoint.receive bytes).endpoint.tally
      (endpoint.receive bytes).signals (endpoint.closings bytes) := by
  induction bytes generalizing endpoint with
  | nil => exact .refl _
  | cons byte rest ih => exact (accounts_feed endpoint byte).trans (ih _)

/-- Only a flag that closes a frame signals anything. -/
theorem frame_of_signals {byte : UInt8} (heard : (endpoint.feed byte).signals ≠ []) :
    byte = Wire.flag ∧ ∃ frame, endpoint.completed? byte = some frame := by
  cases complete : endpoint.completed? byte with
  | none => exact absurd (feed_of_none complete).1 heard
  | some frame => exact ⟨(completed?_eq_some complete).1, frame, rfl⟩

/-- A signal is one of those of the frame that a certain flag closes; what is signalled
before it is what the bytes before that flag signal, and the frame's signals before it. -/
theorem signal_of_frame {bytes : List UInt8} {front back : List Signal} {signal : Signal}
    (split : (endpoint.receive bytes).signals = front ++ signal :: back) :
    ∃ early late frame head tail, bytes = early ++ Wire.flag :: late ∧
      (endpoint.receive early).endpoint.completed? Wire.flag = some frame ∧
      ((endpoint.receive early).endpoint.feed Wire.flag).signals = head ++ signal :: tail ∧
      front = (endpoint.receive early).signals ++ head := by
  induction bytes generalizing endpoint front with
  | nil => simp at split
  | cons byte rest ih =>
    have parts : (∃ missing, front = (endpoint.feed byte).signals ++ missing ∧
          ((endpoint.feed byte).endpoint.receive rest).signals = missing ++ signal :: back) ∨
        ∃ tail, (endpoint.feed byte).signals = front ++ signal :: tail := by
      rcases List.append_eq_append_iff.mp split with ⟨missing, same, later⟩ | ⟨own, same, later⟩
      · exact .inl ⟨missing, same, later⟩
      · cases own with
        | nil => exact .inl ⟨[], by simpa using same.symm, later.symm⟩
        | cons first tail =>
          obtain ⟨rfl, -⟩ := List.cons.inj later
          exact .inr ⟨tail, same⟩
    rcases parts with ⟨missing, same, later⟩ | ⟨tail, same⟩
    · obtain ⟨early, late, frame, head, tail, rfl, complete, told, rfl⟩ := ih later
      exact ⟨byte :: early, late, frame, head, tail, rfl, complete, told,
        same.trans (List.append_assoc ..).symm⟩
    · have heard : (endpoint.feed byte).signals ≠ [] := by simp [same]
      obtain ⟨rfl, frame, complete⟩ := frame_of_signals heard
      exact ⟨[], rest, frame, front, tail, rfl, complete, same, rfl⟩

/-- Only a DATA frame signals a payload, directly behind what it signals of its
acknowledgement. -/
theorem payload_of_accept {frame : Wire.Frame} {head tail : List Signal} {payload : List UInt8}
    (told : (endpoint.accept frame).signals = head ++ .payload payload :: tail) :
    ∃ number acked resend, frame = .data number acked resend payload ∧
      (endpoint.accept frame).signals =
        [.judging endpoint.sequence.expectedAck acked, .payload payload] ∧
      head = [.judging endpoint.sequence.expectedAck acked] := by
  have member : .payload payload ∈ (endpoint.accept frame).signals := by simp [told]
  cases frame with
  | ack | nak | reset => simp [accept] at member
  | resetAck code => by_cases up : endpoint.connected = true <;> simp [accept, up] at member
  | data number acked resend content =>
    have judged : (endpoint.accept (.data number acked resend content)).signals =
        [.judging endpoint.sequence.expectedAck acked, .payload content] := by
      by_cases expected : acked = endpoint.sequence.expectedAck <;>
        simp [accept, Signal.judging, expected]
    have notice : Signal.judging endpoint.sequence.expectedAck acked ≠ .payload payload := by
      intro same
      unfold Signal.judging at same
      split at same <;> cases same
    rw [judged] at told
    rcases head with _ | ⟨first, _ | ⟨second, more⟩⟩
    · exact absurd (List.cons.inj told).1 notice
    · obtain ⟨rfl, rest⟩ := List.cons.inj told
      obtain ⟨same, -⟩ := List.cons.inj rest
      cases same
      exact ⟨number, acked, resend, rfl, judged, rfl⟩
    · simp at told

/-- DATA frames, acknowledgements, NAKs and wrong acknowledgements are counted as often as they
are signalled. Every segment that a flag closes is recorded once, but for the frames of the
reset handshake. And directly before a payload comes the one signal of the acknowledgement
in its own frame. -/
theorem received_bytes_accounted_for (endpoint : Endpoint) (bytes : List UInt8) :
    let read := endpoint.receive bytes
    let before := endpoint.tally
    let after := read.endpoint.tally
    let count := fun kind => read.signals.countP (·.kind = kind)
    let closed := endpoint.closings bytes
    (after.dataReceived = before.dataReceived + count .payload ∧
      after.acksReceived = before.acksReceived + count .ackObserved ∧
      after.naksReceived = before.naksReceived + count .nakObserved ∧
      after.ackMismatches = before.ackMismatches + count .ackMismatch) ∧
    before.recorded + closed.length = after.recorded + closed.countP (Greets ·) ∧
    ∀ front payload back, read.signals = front ++ .payload payload :: back →
      ∃ early late number acked resend, bytes = early ++ Wire.flag :: late ∧
        let pending := (endpoint.receive early).endpoint
        let notice := Signal.judging pending.sequence.expectedAck acked
        pending.completed? Wire.flag = some (.data number acked resend payload) ∧
        (pending.feed Wire.flag).signals = [notice, .payload payload] ∧
        front = (endpoint.receive early).signals ++ [notice] := by
  intro read before after count closed
  obtain ⟨data, acks, naks, mismatches, segments⟩ := accounts_receive endpoint bytes
  refine ⟨⟨data, acks, naks, mismatches⟩, segments.symm, fun front payload back split => ?_⟩
  obtain ⟨early, late, frame, head, tail, rfl, complete, told, rfl⟩ := signal_of_frame split
  have taken := feed_of_some complete
  rw [taken] at told
  obtain ⟨number, acked, resend, rfl, signals, rfl⟩ := payload_of_accept told
  exact ⟨early, late, number, acked, resend, rfl, complete,
    (congrArg Intake.signals taken).trans signals, rfl⟩

end Endpoint
end NcpHost
