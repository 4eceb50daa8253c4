import NcpHost.Proofs.Endpoint.Frames
import NcpHost.Proofs.Endpoint.Stream
import NcpHost.Proofs.Wire.Refusal

/-! A flag that closes lost bytes leaves one count and nothing else: no signal, and an
endpoint that reads on as if it had read nothing since the last flag. -/
namespace NcpHost

protected def Tally.add (tally more : Tally) : Tally where
  resetsSent := tally.resetsSent + more.resetsSent
  acksSent := tally.acksSent + more.acksSent
  dataSent := tally.dataSent + more.dataSent
  dataReceived := tally.dataReceived + more.dataReceived
  acksReceived := tally.acksReceived + more.acksReceived
  naksReceived := tally.naksReceived + more.naksReceived
  ackMismatches := tally.ackMismatches + more.ackMismatches
  checksumErrors := tally.checksumErrors + more.checksumErrors
  framingErrors := tally.framingErrors + more.framingErrors
  rejected := tally.rejected + more.rejected

instance : Add Tally := ⟨Tally.add⟩

theorem Tally.add_def (tally more : Tally) : tally + more = tally.add more := rfl

theorem Tally.add_right_comm (tally one other : Tally) :
    tally + one + other = tally + other + one := by
  simp only [add_def, Tally.add, Nat.add_right_comm]

/-- What one lost frame adds to the tally: one to one of three counts. -/
def Wire.Loss.once : Loss → Tally
  | .checksum => { checksumErrors := 1 }
  | .framing => { framingErrors := 1 }
  | .rejected => { rejected := 1 }

theorem Tally.countError_eq (tally : Tally) (error : Wire.FrameError) :
    tally.countError error = tally + error.loss.once := by
  cases error <;> rfl

namespace Endpoint

/-- The same endpoint with more counted. -/
def counting (endpoint : Endpoint) (more : Tally) : Endpoint :=
  { endpoint with tally := endpoint.tally + more }

/-- The same endpoint with the frame in progress forgotten. -/
def anew (endpoint : Endpoint) : Endpoint :=
  { endpoint with buffer := [], corrupt := false }

/-- There is something for a flag to close. -/
def Pending (endpoint : Endpoint) : Prop := endpoint.buffer ≠ [] ∨ endpoint.corrupt = true

instance (endpoint : Endpoint) : Decidable endpoint.Pending :=
  inferInstanceAs (Decidable (_ ∨ _))

/-- How the segment in progress is lost if a flag closes it here. -/
inductive Loses (endpoint : Endpoint) : Wire.Loss → Prop
  | spoilt (corrupt : endpoint.corrupt = true) : Loses endpoint .framing
  | refused {loss : Wire.Loss} (clean : endpoint.corrupt = false) (filled : endpoint.buffer ≠ [])
      (refused : Wire.Refused endpoint.buffer loss) : Loses endpoint loss

variable {endpoint : Endpoint}

theorem close_of_loses {loss : Wire.Loss} (loses : endpoint.Loses loss) :
    endpoint.close.signals = [] ∧ endpoint.close.endpoint = endpoint.anew.counting loss.once := by
  cases loses with
  | spoilt corrupt =>
    rw [close, if_pos corrupt]
    exact ⟨rfl, rfl⟩
  | refused clean filled refused =>
    obtain ⟨error, read, rfl⟩ := Wire.Frame.refused_iff.mp refused
    have filled : endpoint.buffer.isEmpty = false := List.isEmpty_eq_false_iff.mpr filled
    simp only [close, clean, filled, read, Bool.false_eq_true, if_false, Tally.countError_eq]
    exact ⟨trivial, rfl⟩

/-- A closing flag finds nothing, a frame or a loss. -/
theorem pending_iff : endpoint.Pending ↔
    (endpoint.completed? Wire.flag).isSome ∨ ∃ loss, endpoint.Loses loss := by
  cases spoilt : endpoint.corrupt with
  | true => exact iff_of_true (.inr spoilt) (.inr ⟨_, .spoilt spoilt⟩)
  | false =>
    simp only [Pending, completed?, spoilt, and_self, if_true, Bool.false_eq_true, or_false]
    constructor
    · intro filled
      cases read : Wire.Frame.ofStuffed endpoint.buffer with
      | ok frame => exact .inl rfl
      | error error =>
        have refused := Wire.Frame.refused_iff.mpr ⟨error, read, rfl⟩
        exact .inr ⟨_, .refused spoilt filled refused⟩
    · rintro (complete | ⟨loss, loses⟩) empty
      · rw [empty] at complete
        cases complete
      · cases loses with
        | spoilt corrupt => rw [spoilt] at corrupt; cases corrupt
        | refused clean filled => exact filled empty

/-- A segment that is lost is no frame. -/
theorem completed_of_loses {loss : Wire.Loss} (loses : endpoint.Loses loss) :
    endpoint.completed? Wire.flag = none := by
  cases loses with
  | spoilt corrupt => simp [completed?, corrupt]
  | refused clean filled refused =>
    obtain ⟨error, read, -⟩ := Wire.Frame.refused_iff.mp refused
    simp [completed?, clean, read, Except.toOption]

/-- Before a flag nothing is signalled, and nothing but the frame in progress changes. -/
theorem feed_inside (endpoint : Endpoint) {byte : UInt8} (inside : byte ≠ Wire.flag) :
    (endpoint.feed byte).signals = [] ∧ (endpoint.feed byte).endpoint.anew = endpoint.anew := by
  simp only [feed, inside, if_false]
  repeat' split
  all_goals exact ⟨rfl, rfl⟩

theorem receive_inside (endpoint : Endpoint) {segment : List UInt8}
    (inside : Wire.flag ∉ segment) :
    (endpoint.receive segment).signals = [] ∧
      (endpoint.receive segment).endpoint.anew = endpoint.anew := by
  induction segment generalizing endpoint with
  | nil => exact ⟨rfl, rfl⟩
  | cons byte rest ih =>
    obtain ⟨notFlag, free⟩ := List.ne_and_not_mem_of_not_mem_cons inside
    obtain ⟨silent, same⟩ := feed_inside endpoint (Ne.symm notFlag)
    obtain ⟨quiet, unchanged⟩ := ih (endpoint.feed byte).endpoint free
    exact ⟨by rw [receive, silent, quiet, List.nil_append], unchanged.trans same⟩

theorem receive_closing {segment : List UInt8} (inside : Wire.flag ∉ segment) :
    (endpoint.receive (segment ++ [Wire.flag])).signals =
        (endpoint.receive segment).endpoint.close.signals ∧
      (endpoint.receive (segment ++ [Wire.flag])).endpoint =
        (endpoint.receive segment).endpoint.close.endpoint := by
  rw [receive_append]
  constructor
  · change (endpoint.receive segment).signals ++ (_ ++ []) = _
    rw [(receive_inside endpoint inside).1, List.nil_append, List.append_nil]
    rfl
  · rfl

/-- The same intake with more counted. -/
def Intake.counting (intake : Intake) (more : Tally) : Intake :=
  { intake with endpoint := intake.endpoint.counting more }

theorem accept_counting (endpoint : Endpoint) (more : Tally) (frame : Wire.Frame) :
    (endpoint.counting more).accept frame = (endpoint.accept frame).counting more := by
  cases frame with
  | data number acked resend payload =>
    by_cases expected : acked = endpoint.sequence.expectedAck <;>
      simp [accept, counting, Intake.counting, expected, Tally.add_def, Tally.add,
        Nat.add_right_comm]
  | resetAck code =>
    by_cases up : endpoint.connected = true <;>
      simp_all [accept, counting, Intake.counting, connected]
  | ack | nak | reset =>
    simp [accept, counting, Intake.counting, Tally.add_def, Tally.add, Nat.add_right_comm]

theorem close_counting (endpoint : Endpoint) (more : Tally) :
    (endpoint.counting more).close = endpoint.close.counting more := by
  by_cases spoilt : endpoint.corrupt = true
  · simp [close, counting, Intake.counting, spoilt, Tally.add_def, Tally.add, Nat.add_right_comm]
  · by_cases empty : endpoint.buffer.isEmpty = true
    · simp [close, counting, Intake.counting, spoilt, empty]
    · cases read : Wire.Frame.ofStuffed endpoint.buffer with
      | ok frame =>
        have taken := accept_counting endpoint.anew more frame
        simp only [counting, anew] at taken
        simp [close, counting, spoilt, empty, read, taken]
      | error error =>
        simp [close, counting, Intake.counting, spoilt, empty, read, Tally.countError_eq,
          Tally.add_right_comm]

theorem feed_counting (endpoint : Endpoint) (more : Tally) (byte : UInt8) :
    (endpoint.counting more).feed byte = (endpoint.feed byte).counting more := by
  by_cases closes : byte = Wire.flag
  · subst closes
    exact close_counting endpoint more
  · simp only [feed, closes, if_false, apply_ite (Intake.counting · more)]
    rfl

/-- What was counted before makes no difference to how bytes are read. -/
theorem receive_counting (endpoint : Endpoint) (more : Tally) (bytes : List UInt8) :
    (endpoint.counting more).receive bytes = (endpoint.receive bytes).counting more := by
  induction bytes generalizing endpoint with
  | nil => rfl
  | cons byte rest ih =>
    have first := feed_counting endpoint more byte
    simp only [receive, first, Intake.counting, ih]

/-- A segment is lost if it is not empty and no frame for the receiver: spoilt, or refused
for its bytes. Then the flag that closes it signals nothing, adds one to one count, and
leaves the endpoint as it was when the segment began but for that count. What comes later
is read as if the segment had not been there. -/
theorem lost_segment_leaves_one_count (endpoint : Endpoint) (segment : List UInt8)
    (inside : Wire.flag ∉ segment) :
    let pending := (endpoint.receive segment).endpoint
    let closed := endpoint.receive (segment ++ [Wire.flag])
    ((∃ loss, pending.Loses loss) ↔ pending.Pending ∧ pending.completed? Wire.flag = none) ∧
    (endpoint.Clear → (pending.corrupt = true ↔ Spoilt segment)) ∧
    ∀ loss, pending.Loses loss →
      closed.signals = [] ∧ closed.endpoint = endpoint.anew.counting loss.once ∧
      ∀ later, closed.endpoint.receive later =
        (endpoint.anew.receive later).counting loss.once := by
  intro pending closed
  have same : pending.anew = endpoint.anew := (receive_inside endpoint inside).2
  obtain ⟨heard, ending⟩ :
      closed.signals = pending.close.signals ∧ closed.endpoint = pending.close.endpoint :=
    receive_closing inside
  refine ⟨?_, ?_, ?_⟩
  · constructor
    · rintro ⟨loss, loses⟩
      exact ⟨pending_iff.mpr (.inr ⟨loss, loses⟩), completed_of_loses loses⟩
    · rintro ⟨closes, none⟩
      exact (pending_iff.mp closes).resolve_left (by simp [none])
  · intro clear
    have grown := (receive_within endpoint [] inside).1
    rw [clear.within_nil, List.nil_append] at grown
    have read : pending = endpoint.within segment := grown
    simp only [read, within, decide_eq_true_eq]
  · intro loss loses
    obtain ⟨nothing, left⟩ := close_of_loses loses
    have last : closed.endpoint = endpoint.anew.counting loss.once := by
      rw [ending, left, same]
    exact ⟨heard.trans nothing, last, fun later => by rw [last, receive_counting]⟩

/-- An acknowledgement with a wrong check sequence, behind it the right one. -/
theorem lost_segment_leaves_one_count_garbled :
    let closed := receive {} ([0x81, 0x60, 0x58] ++ [Wire.flag])
    closed.signals = [] ∧ closed.endpoint = { tally := { checksumErrors := 1 } } ∧
      (closed.endpoint.receive [0x81, 0x60, 0x59, 0x7E]).signals =
        [.cancelTimer, .ackObserved 1] := by
  intro closed
  have unreadable : ¬ Wire.Crc.Intact [0x81, 0x60, 0x58] := by decide +kernel
  have loses : Loses (receive {} [0x81, 0x60, 0x58]).endpoint .checksum :=
    .refused rfl (by decide) (.garbled rfl (by decide) unreadable)
  obtain ⟨-, -, lost⟩ := lost_segment_leaves_one_count {} [0x81, 0x60, 0x58] (by decide)
  obtain ⟨nothing, left, later⟩ := lost _ loses
  refine ⟨nothing, left, (congrArg Intake.signals (later _)).trans ?_⟩
  decide +kernel

end Endpoint
end NcpHost
