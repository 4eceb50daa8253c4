import NcpHost.Proofs.Endpoint.Numbers

/-! The room for a number, which is three bits of a control byte. All numbers of one end stay
below eight whatever it does and reads. So no step from one number to another leaves the range
of a byte on its way, and frames carry the numbers whole, each in bits of its own. -/
namespace NcpHost

namespace Wire.Control

/-- The sum of two bytes, if it is a byte. -/
def sum? (first second : UInt8) : Option UInt8 :=
  if first.toNat + second.toNat < UInt8.size then some (first + second) else none

/-- The difference of two bytes, if it is a byte. -/
def difference? (first second : UInt8) : Option UInt8 :=
  if second ≤ first then some (first - second) else none

/-- The number after another one, if no byte overflows. -/
def following? (number : UInt8) : Option UInt8 := do
  let raised ← sum? number 1
  return raised % modulus

/-- The number before another one, if no byte overflows. -/
def preceding? (number : UInt8) : Option UInt8 := do
  -- A whole round comes first, so that zero has a number before it.
  let raised ← sum? number modulus
  let lowered ← difference? raised 1
  return lowered % modulus

theorem following?_of_lt {number : UInt8} (small : number < modulus) :
    following? number = some ((number + 1) % modulus) := by
  have bound : number.toNat < 8 := UInt8.lt_iff_toNat_lt.mp small
  have room : number.toNat + (1 : UInt8).toNat < UInt8.size := by
    rw [UInt8.toNat_one, UInt8.size]
    omega
  rw [following?, sum?, if_pos room]
  rfl

theorem preceding?_of_lt {number : UInt8} (small : number < modulus) :
    preceding? number = some ((number + modulus - 1) % modulus) := by
  have eight : modulus.toNat = 8 := rfl
  have bound : number.toNat < 8 := UInt8.lt_iff_toNat_lt.mp small
  have room : number.toNat + modulus.toNat < UInt8.size := by
    rw [eight, UInt8.size]
    omega
  have positive : 1 ≤ number + modulus := by
    rw [UInt8.le_iff_toNat_le, UInt8.toNat_add, UInt8.toNat_one, eight]
    omega
  rw [preceding?, sum?, if_pos room, Option.bind_eq_bind, Option.bind_some, difference?,
    if_pos positive]
  rfl

end Wire.Control

open Wire (Control)

namespace Sequence

/-- Each number is one that a control byte has room for. -/
structure InRange (sequence : Sequence) : Prop where
  expectedAck : sequence.expectedAck < Control.modulus
  nextFrame : sequence.nextFrame < Control.modulus
  ackToSend : sequence.ackToSend < Control.modulus

theorem inRange_zero : InRange {} := ⟨by decide, by decide, by decide⟩

/-- The numbers after `frame` is accepted, if no byte overflows. -/
def accept? (sequence : Sequence) : Wire.Frame → Option Sequence
  | .data number .. => do
    let following ← Control.following? number
    return { sequence with ackToSend := following }
  | .nak number => some { sequence with nextFrame := number }
  | .resetAck _ => some { sequence with connected := true }
  | .ack _ | .reset => some sequence

variable (sequence : Sequence)

theorem accept?_of_fits {frame : Wire.Frame} (fits : frame.Fits) :
    sequence.accept? frame = some (sequence.accept frame) := by
  cases frame with
  | data number acked resend payload =>
    rw [accept?, Control.following?_of_lt fits.1]
    by_cases expected : acked = sequence.expectedAck <;>
      simp [accept, Endpoint.accept, expected]
  | resetAck code =>
    by_cases up : sequence.connected = true
    · have kept : { sequence with connected := true } = sequence := by rw [← up]
      simp [accept?, accept, Endpoint.accept, Endpoint.connected, up, kept]
    · simp [accept?, accept, Endpoint.accept, Endpoint.connected, up]
  | ack | nak | reset => rfl

theorem foldlM_accept? {frames : List Wire.Frame} (fit : ∀ frame ∈ frames, frame.Fits) :
    frames.foldlM accept? sequence = some (frames.foldl accept sequence) := by
  induction frames generalizing sequence with
  | nil => rfl
  | cons frame later ih =>
    rw [List.foldlM_cons, accept?_of_fits sequence (fit frame List.mem_cons_self)]
    exact ih _ fun other member => fit other (List.mem_cons_of_mem _ member)

end Sequence

namespace Endpoint

/-- The numbers after an operation, if no byte overflows on the way to them. -/
def sequenceAfter? (endpoint : Endpoint) : Operation → Option Sequence
  | .reset => some {}
  | .ack => some endpoint.sequence
  | .data _ => do
    let following ← Control.following? endpoint.sequence.nextFrame
    return { endpoint.sequence with nextFrame := following, expectedAck := following }
  | .rewind => do
    let preceding ← Control.preceding? endpoint.sequence.nextFrame
    return { endpoint.sequence with nextFrame := preceding, expectedAck := preceding }
  | .receive bytes => (endpoint.frames bytes).foldlM Sequence.accept? endpoint.sequence

/-- The number to acknowledge follows that of the last DATA frame among `frames`; without one
it is 0. -/
def FollowsData (endpoint : Endpoint) (frames : List Wire.Frame) : Prop :=
  endpoint.sequence.ackToSend = (frames.filterMap Wire.Frame.dataNumber?).getLast?.elim 0
    fun number => (number + 1) % Control.modulus

variable {endpoint : Endpoint} {earlier : List Wire.Frame}

theorem inRange_receive (inRange : endpoint.sequence.InRange) (bytes : List UInt8) :
    (endpoint.receive bytes).endpoint.sequence.InRange where
  expectedAck := by
    rw [expectedAck_receive]
    exact inRange.expectedAck
  nextFrame := UInt8.lt_iff_toNat_lt.mpr
    (nextFrame_receive_lt _ _ (UInt8.lt_iff_toNat_lt.mp inRange.nextFrame))
  ackToSend := by
    rw [ackToSend_receive]
    cases ((endpoint.frames bytes).filterMap Wire.Frame.dataNumber?).getLast? with
    | none => exact inRange.ackToSend
    | some number => exact UInt8.mod_lt _ (by decide)

theorem inRange_apply (inRange : endpoint.sequence.InRange) (operation : Operation) :
    (endpoint.apply operation).endpoint.sequence.InRange := by
  cases operation with
  | reset => exact Sequence.inRange_zero
  | ack => exact inRange
  | data | rewind =>
    have reduced (sum : UInt8) : sum % Control.modulus < Control.modulus :=
      UInt8.mod_lt sum (by decide)
    exact ⟨reduced _, reduced _, inRange.ackToSend⟩
  | receive bytes => exact inRange_receive inRange bytes

theorem inRange_run (inRange : endpoint.sequence.InRange) (history : List Operation) :
    (endpoint.run history).sequence.InRange := by
  induction history generalizing endpoint with
  | nil => exact inRange
  | cons operation later ih => exact ih (inRange_apply inRange operation)

/-- Among numbers in range no byte overflows. -/
theorem sequenceAfter?_of_inRange (inRange : endpoint.sequence.InRange) (operation : Operation) :
    endpoint.sequenceAfter? operation = some (endpoint.apply operation).endpoint.sequence := by
  cases operation with
  | reset | ack => rfl
  | data payload =>
    rw [sequenceAfter?, Control.following?_of_lt inRange.nextFrame]
    rfl
  | rewind =>
    rw [sequenceAfter?, Control.preceding?_of_lt inRange.nextFrame]
    rfl
  | receive bytes =>
    rw [sequenceAfter?, Sequence.foldlM_accept? _ (endpoint.frames_fit bytes),
      ← (receive_frames endpoint bytes).2]
    rfl

theorem FollowsData.receive (follows : endpoint.FollowsData earlier) (bytes : List UInt8) :
    (endpoint.receive bytes).endpoint.FollowsData (earlier ++ endpoint.frames bytes) := by
  rw [FollowsData, ackToSend_receive, follows, List.filterMap_append, List.getLast?_append]
  cases ((endpoint.frames bytes).filterMap Wire.Frame.dataNumber?).getLast? <;> rfl

theorem FollowsData.run (follows : endpoint.FollowsData earlier) (history : List Operation) :
    (endpoint.run history).FollowsData (endpoint.sinceReset earlier history) := by
  induction history generalizing endpoint earlier with
  | nil => exact follows
  | cons operation later ih =>
    cases operation with
    | reset => exact ih rfl
    | ack | data | rewind => exact ih follows
    | receive bytes => exact ih (follows.receive bytes)

/-- Over any history the three numbers stay below eight, so whatever operation comes next,
arithmetic that fails where a byte overflows leads to the same numbers. The number to
acknowledge follows, modulo eight, that of the last valid DATA frame since the last reset, and
is 0 if there was none. The control byte of a DATA frame or an ACK is read as the very numbers
and resend bit that the endpoint holds: cutting the numbers to three bits changes none of them,
and each has bits of its own. -/
theorem numbers_carried_whole (history : List Operation) :
    let last := run {} history
    let number := last.sequence.nextFrame
    let acked := last.sequence.ackToSend
    let heard := (sinceReset {} [] history).filterMap Wire.Frame.dataNumber?
    last.sequence.InRange ∧
      (∀ operation, last.sequenceAfter? operation =
        some (last.apply operation).endpoint.sequence) ∧
      acked.toNat = heard.getLast?.elim 0 (fun latest => (latest.toNat + 1) % 8) ∧
      (number &&& Control.numberMask = number ∧ acked &&& Control.numberMask = acked) ∧
      (∀ payload, ∃ control,
        (last.data payload).1.wire = Wire.encode (control :: Wire.Whitening.whiten payload) ∧
        Control.ofByte control = .data number acked last.resendNext ∧
        control.toNat = 16 * number.toNat + (if last.resendNext then 8 else 0) + acked.toNat) ∧
      ∃ control, last.ack.1.wire = Wire.encode [control] ∧
        Control.ofByte control = .ack acked false ∧ control.toNat = 128 + acked.toNat := by
  intro last number acked heard
  have inRange : last.sequence.InRange := inRange_run Sequence.inRange_zero history
  have start : FollowsData {} [] := rfl
  have follows : acked = heard.getLast?.elim 0 fun latest => (latest + 1) % Control.modulus :=
    start.run history
  refine ⟨inRange, sequenceAfter?_of_inRange inRange, ?_,
    ⟨Control.masked_of_lt inRange.nextFrame, Control.masked_of_lt inRange.ackToSend⟩,
    fun payload => ⟨_, rfl, ?_, ?_⟩, ⟨_, rfl, ?_, ?_⟩⟩
  · rw [follows]
    cases heard.getLast? with
    | none => rfl
    | some latest => exact toNat_following latest
  · exact Control.ofByte_dataByte last.resendNext inRange.nextFrame inRange.ackToSend
  · exact Control.toNat_dataByte last.resendNext inRange.nextFrame inRange.ackToSend
  · exact Control.ofByte_ackByte inRange.ackToSend
  · exact Control.toNat_ackByte inRange.ackToSend

/-- The numbers wrap around on both sides: seven is the number before zero, and a DATA frame
with number seven is acknowledged by zero. -/
example :
    let last := run {} [.receive (Wire.Frame.data 7 0 false [0x55]).wire, .rewind]
    (last.sequence.nextFrame, last.sequence.ackToSend) = (7, 0) ∧
      (last.data []).1.body = [0x78] := by
  decide +kernel

end Endpoint
end NcpHost
