import NcpHost.Endpoint.Receive

/-! The valid frames among received bytes, and what each of them does to a timer
that runs for the owner of the endpoint. -/
namespace NcpHost

/-- A frame, other than a reset acknowledgement, after which an endpoint that
expects the acknowledgement `expected` has nothing to wait for. -/
def Wire.Frame.EndsWait (expected : UInt8) : Wire.Frame → Prop
  | .data _ acked _ _ => acked = expected
  | .ack _ | .nak _ | .reset => True
  | .resetAck _ => False

instance (expected : UInt8) : DecidablePred (Wire.Frame.EndsWait expected)
  | .data _ acked _ _ => inferInstanceAs (Decidable (acked = expected))
  | .ack _ | .nak _ | .reset => .isTrue trivial
  | .resetAck _ => .isFalse id

namespace Endpoint

/-- The frame that `byte` completes, if it is valid. -/
def completed? (endpoint : Endpoint) (byte : UInt8) : Option Wire.Frame :=
  if byte = Wire.flag ∧ endpoint.corrupt = false then
    (Wire.Frame.ofStuffed endpoint.buffer).toOption
  else none

/-- The valid frames that `bytes` complete, in order. -/
def frames (endpoint : Endpoint) : List UInt8 → List Wire.Frame
  | [] => []
  | byte :: rest =>
    (endpoint.completed? byte).toList ++ (endpoint.feed byte).endpoint.frames rest

/-- A byte that completes no valid frame signals nothing and leaves the sequence
numbers alone. -/
theorem feed_of_none {endpoint : Endpoint} {byte : UInt8}
    (incomplete : endpoint.completed? byte = none) :
    (endpoint.feed byte).signals = [] ∧
      (endpoint.feed byte).endpoint.sequence = endpoint.sequence := by
  by_cases isFlag : byte = Wire.flag
  · subst isFlag
    change endpoint.close.signals = [] ∧ endpoint.close.endpoint.sequence = endpoint.sequence
    unfold close
    by_cases corrupt : endpoint.corrupt = true
    · simp [corrupt]
    · by_cases empty : endpoint.buffer.isEmpty = true
      · simp [corrupt, empty]
      · cases read : Wire.Frame.ofStuffed endpoint.buffer with
        | ok frame => simp [completed?, corrupt, read, Except.toOption] at incomplete
        | error error => simp [corrupt, empty]
  · simp only [feed, isFlag, if_false]
    repeat' split
    all_goals exact ⟨rfl, rfl⟩

theorem completed?_eq_some {endpoint : Endpoint} {byte : UInt8} {frame : Wire.Frame}
    (complete : endpoint.completed? byte = some frame) :
    byte = Wire.flag ∧ endpoint.corrupt = false ∧
      Wire.Frame.ofStuffed endpoint.buffer = .ok frame := by
  unfold completed? at complete
  split at complete
  · next closing =>
    refine ⟨closing.1, closing.2, ?_⟩
    cases read : Wire.Frame.ofStuffed endpoint.buffer <;> rw [read] at complete <;> cases complete
    rfl
  · cases complete

/-- A byte that completes a valid frame does what the frame does. -/
theorem feed_of_some {endpoint : Endpoint} {byte : UInt8} {frame : Wire.Frame}
    (complete : endpoint.completed? byte = some frame) :
    endpoint.feed byte = { endpoint with buffer := [], corrupt := false }.accept frame := by
  obtain ⟨rfl, clean, read⟩ := completed?_eq_some complete
  have filled : endpoint.buffer.isEmpty = false := by
    cases bytes : endpoint.buffer with
    | nil => rw [bytes] at read; cases read
    | cons => rfl
  change endpoint.close = _
  simp only [close, clean, filled, read, Bool.false_eq_true, if_false]

/-- What a frame does to the numbers, and what is signalled, depend on the
numbers alone. -/
theorem accept_sequence (endpoint : Endpoint) (frame : Wire.Frame) :
    (endpoint.accept frame).signals =
        (Endpoint.accept { sequence := endpoint.sequence } frame).signals ∧
      (endpoint.accept frame).endpoint.sequence =
        (Endpoint.accept { sequence := endpoint.sequence } frame).endpoint.sequence := by
  cases frame with
  | data number acked resend payload =>
    by_cases expected : acked = endpoint.sequence.expectedAck <;> simp [accept, expected]
  | resetAck code =>
    by_cases up : endpoint.sequence.connected = true <;> simp [accept, connected, up]
  | ack | nak | reset => simp [accept]

end Endpoint

namespace Sequence

/-- The numbers after `frame` is accepted. -/
def accept (sequence : Sequence) (frame : Wire.Frame) : Sequence :=
  (Endpoint.accept { sequence } frame).endpoint.sequence

/-- What accepting `frames` one after the other signals. -/
def signals (sequence : Sequence) : List Wire.Frame → List Signal
  | [] => []
  | frame :: later =>
    (Endpoint.accept { sequence } frame).signals ++ (sequence.accept frame).signals later

variable (sequence : Sequence) (frame : Wire.Frame)

@[simp] theorem expectedAck_accept :
    (sequence.accept frame).expectedAck = sequence.expectedAck := by
  cases frame <;> simp only [accept, Endpoint.accept] <;> (repeat' split) <;> rfl

theorem connected_accept :
    (sequence.accept frame).connected = true ↔
      sequence.connected = true ∨ ∃ code, frame = .resetAck code := by
  cases frame with
  | data number acked resend payload =>
    by_cases expected : acked = sequence.expectedAck <;>
      simp [accept, Endpoint.accept, expected]
  | resetAck code =>
    by_cases up : sequence.connected = true <;>
      simp [accept, Endpoint.accept, Endpoint.connected, up]
  | ack | nak | reset => simp [accept, Endpoint.accept]

theorem cancelTimer_mem_accept :
    .cancelTimer ∈ (Endpoint.accept { sequence } frame).signals ↔
      frame.EndsWait sequence.expectedAck ∨
        sequence.connected = false ∧ ∃ code, frame = .resetAck code := by
  cases frame with
  | data number acked resend payload =>
    by_cases expected : acked = sequence.expectedAck <;>
      simp [Endpoint.accept, expected, Wire.Frame.EndsWait]
  | resetAck code =>
    by_cases up : sequence.connected = true <;>
      simp [Endpoint.accept, Endpoint.connected, up, Wire.Frame.EndsWait]
  | ack | nak | reset => simp [Endpoint.accept, Wire.Frame.EndsWait]

theorem connected_mem_accept :
    (∃ code, .connected code ∈ (Endpoint.accept { sequence } frame).signals) ↔
      sequence.connected = false ∧ ∃ code, frame = .resetAck code := by
  cases frame with
  | data number acked resend payload =>
    by_cases expected : acked = sequence.expectedAck <;> simp [Endpoint.accept, expected]
  | resetAck code =>
    by_cases up : sequence.connected = true <;>
      simp [Endpoint.accept, Endpoint.connected, up]
  | ack | nak | reset => simp [Endpoint.accept]

theorem connected_foldl (frames : List Wire.Frame) :
    (frames.foldl accept sequence).connected = true ↔
      sequence.connected = true ∨ ∃ code, .resetAck code ∈ frames := by
  induction frames generalizing sequence with
  | nil => simp
  | cons frame later ih =>
    rw [List.foldl_cons, ih, connected_accept]
    simp only [List.mem_cons, exists_or, or_assoc, eq_comm]

/-- Frames end a wait exactly if one of them does, or is the reset acknowledgement
that brings the link up. -/
theorem cancelTimer_mem_signals (frames : List Wire.Frame) :
    .cancelTimer ∈ sequence.signals frames ↔
      (∃ frame ∈ frames, frame.EndsWait sequence.expectedAck) ∨
        sequence.connected = false ∧ ∃ code, .resetAck code ∈ frames := by
  induction frames generalizing sequence with
  | nil => simp [signals]
  | cons frame later ih =>
    have up := connected_accept sequence frame
    rw [signals, List.mem_append, ih, cancelTimer_mem_accept, expectedAck_accept]
    by_cases before : sequence.connected = true
    · simp [before, up.mpr (.inl before)]
    · by_cases acknowledges : ∃ code, frame = .resetAck code
      · obtain ⟨code, rfl⟩ := acknowledges
        simp [before]
      · have after : (sequence.accept frame).connected = false := by
          simpa [before, acknowledges] using up
        simp only [not_exists] at acknowledges
        simp [before, after, acknowledges, eq_comm, or_assoc]

/-- The link is reported up exactly if a reset acknowledgement arrives while it is
down. -/
theorem connected_mem_signals (frames : List Wire.Frame) :
    (∃ code, .connected code ∈ sequence.signals frames) ↔
      sequence.connected = false ∧ ∃ code, .resetAck code ∈ frames := by
  induction frames generalizing sequence with
  | nil => simp [signals]
  | cons frame later ih =>
    have up := connected_accept sequence frame
    simp only [signals, List.mem_append, exists_or, ih, connected_mem_accept]
    by_cases before : sequence.connected = true
    · simp [before, up.mpr (.inl before)]
    · by_cases acknowledges : ∃ code, frame = .resetAck code
      · obtain ⟨code, rfl⟩ := acknowledges
        simp [before]
      · have after : (sequence.accept frame).connected = false := by
          simpa [before, acknowledges] using up
        simp only [not_exists] at acknowledges
        simp [before, after, acknowledges, eq_comm]

end Sequence

namespace Endpoint

/-- Reading bytes is accepting the frames they complete. -/
theorem receive_frames (endpoint : Endpoint) (bytes : List UInt8) :
    (endpoint.receive bytes).signals = endpoint.sequence.signals (endpoint.frames bytes) ∧
      (endpoint.receive bytes).endpoint.sequence =
        (endpoint.frames bytes).foldl Sequence.accept endpoint.sequence := by
  induction bytes generalizing endpoint with
  | nil => exact ⟨rfl, rfl⟩
  | cons byte rest ih =>
    obtain ⟨signals, sequence⟩ := ih (endpoint.feed byte).endpoint
    cases complete : endpoint.completed? byte with
    | none =>
      obtain ⟨silent, same⟩ := feed_of_none complete
      simp only [receive, frames, complete, silent, same, signals, sequence, Option.toList_none,
        List.nil_append, and_self]
    | some frame =>
      obtain ⟨heard, moved⟩ :=
        accept_sequence { endpoint with buffer := [], corrupt := false } frame
      rw [← feed_of_some complete] at heard moved
      simp only [receive, frames, complete, heard, moved, signals, sequence, Option.toList_some,
        List.singleton_append, Sequence.signals, List.foldl_cons, Sequence.accept, and_self]

theorem connected_receive (endpoint : Endpoint) (bytes : List UInt8) :
    (endpoint.receive bytes).endpoint.connected = true ↔
      endpoint.connected = true ∨ ∃ code, .resetAck code ∈ endpoint.frames bytes := by
  rw [connected, (receive_frames endpoint bytes).2, Sequence.connected_foldl]
  rfl

/-- A link that comes up while bytes are read has ended its wait. -/
theorem cancelTimer_of_connected {endpoint : Endpoint} {bytes : List UInt8}
    (down : endpoint.connected = false)
    (up : (endpoint.receive bytes).endpoint.connected = true) :
    .cancelTimer ∈ (endpoint.receive bytes).signals := by
  rw [connected_receive, down] at up
  rw [(receive_frames endpoint bytes).1, Sequence.cancelTimer_mem_signals]
  exact .inr ⟨down, up.resolve_left (by decide)⟩

end Endpoint
end NcpHost
