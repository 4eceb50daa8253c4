import NcpHost.Proofs.Endpoint.Numbers

/-! The acknowledgement that an end expects, against the number of its next frame, which is
what a peer that has taken everything sends back. A reset, a DATA frame and a step back move
both to the same place. A NAK moves only the number of the next frame, so from then on the two
may differ, and frames are judged by the one that has stayed. -/
namespace NcpHost

/-- What a DATA frame acknowledges, if it is not what is expected. -/
def Wire.Frame.mismatch? (expected : UInt8) : Frame → Option UInt8
  | .data _ acked _ _ => if acked = expected then none else some acked
  | .ack _ | .nak _ | .reset | .resetAck _ => none

/-- What was expected and what came instead. -/
def Signal.mismatch? : Signal → Option (UInt8 × UInt8)
  | .ackMismatch expected received => some (expected, received)
  | _ => none

namespace Sequence

theorem mismatch_accept (sequence : Sequence) (frame : Wire.Frame) :
    (Endpoint.accept { sequence } frame).signals.filterMap Signal.mismatch? =
      (frame.mismatch? sequence.expectedAck).toList.map (sequence.expectedAck, ·) := by
  cases frame with
  | data number acked resend payload =>
    by_cases expected : acked = sequence.expectedAck <;>
      simp [Endpoint.accept, expected, Signal.mismatch?, Wire.Frame.mismatch?]
  | resetAck code =>
    by_cases up : sequence.connected = true <;>
      simp [Endpoint.accept, Endpoint.connected, up, Signal.mismatch?, Wire.Frame.mismatch?]
  | ack | nak | reset => rfl

/-- No frame changes by what the later ones are judged. -/
theorem mismatch_signals (sequence : Sequence) (frames : List Wire.Frame) :
    (sequence.signals frames).filterMap Signal.mismatch? =
      (frames.filterMap (Wire.Frame.mismatch? sequence.expectedAck)).map
        (sequence.expectedAck, ·) := by
  induction frames generalizing sequence with
  | nil => rfl
  | cons frame later ih =>
    have first := mismatch_accept sequence frame
    have rest := ih (sequence.accept frame)
    rw [expectedAck_accept] at rest
    rw [signals, List.filterMap_append, first, rest, List.filterMap_cons]
    cases frame.mismatch? sequence.expectedAck <;> rfl

end Sequence

namespace Endpoint

/-- The valid frames that a history reads after the last operation that moves both numbers to
the same place, behind those that were read before the history since there was one. -/
def sinceAligned (endpoint : Endpoint) (earlier : List Wire.Frame) :
    List Operation → List Wire.Frame
  | [] => earlier
  | operation :: later =>
    let read := match operation with
      | .reset | .data _ | .rewind => []
      | .receive bytes => earlier ++ endpoint.frames bytes
      | .ack => earlier
    (endpoint.apply operation).endpoint.sinceAligned read later

/-- The number of the next frame is that of the last NAK among `frames`; without one it is
the acknowledgement that is expected. -/
def FollowsNaks (endpoint : Endpoint) (frames : List Wire.Frame) : Prop :=
  endpoint.sequence.nextFrame =
    (frames.filterMap Wire.Frame.nakNumber?).getLast?.getD endpoint.sequence.expectedAck

variable {endpoint : Endpoint} {earlier : List Wire.Frame}

theorem FollowsNaks.receive (follows : endpoint.FollowsNaks earlier) (bytes : List UInt8) :
    (endpoint.receive bytes).endpoint.FollowsNaks (earlier ++ endpoint.frames bytes) := by
  rw [FollowsNaks, nextFrame_receive, expectedAck_receive, follows, List.filterMap_append,
    List.getLast?_append]
  cases ((endpoint.frames bytes).filterMap Wire.Frame.nakNumber?).getLast? <;> rfl

theorem FollowsNaks.run (follows : endpoint.FollowsNaks earlier) (history : List Operation) :
    (endpoint.run history).FollowsNaks (endpoint.sinceAligned earlier history) := by
  induction history generalizing endpoint earlier with
  | nil => exact follows
  | cons operation later ih =>
    cases operation with
    | reset | data | rewind => exact ih rfl
    | ack => exact ih follows
    | receive bytes => exact ih (follows.receive bytes)

/-- Over any history, the two numbers part at a NAK and nowhere else: the next frame has the
number of the last NAK since the last reset, DATA frame or step back, and without one that of
the acknowledgement which is expected. Reading does not move the expected acknowledgement, so
of the DATA frames read next, exactly those that acknowledge something else are told as
mismatched, whatever NAKs have come before or come between. -/
theorem numbers_part_at_nak (history : List Operation) (bytes : List UInt8) :
    let last := run {} history
    let expected := last.sequence.expectedAck
    let naks := (sinceAligned {} [] history).filterMap Wire.Frame.nakNumber?
    last.sequence.nextFrame = naks.getLast?.getD expected ∧
      (last.sequence.nextFrame = expected ↔
        ∀ number, naks.getLast? = some number → number = expected) ∧
      (last.receive bytes).endpoint.sequence.expectedAck = expected ∧
      (last.receive bytes).signals.filterMap Signal.mismatch? =
        ((last.frames bytes).filterMap (Wire.Frame.mismatch? expected)).map (expected, ·) := by
  intro last expected naks
  have start : FollowsNaks {} [] := rfl
  have follows : last.sequence.nextFrame = naks.getLast?.getD expected := start.run history
  refine ⟨follows, ?_, expectedAck_receive last bytes, ?_⟩
  · rw [follows]
    cases naks.getLast? <;> simp
  · rw [(receive_frames last bytes).1]
    exact Sequence.mismatch_signals _ _

/-- After a NAK, a peer that acknowledges every frame it has is reported as mismatched. -/
theorem right_acknowledgement_mismatched :
    (¬ ∀ history : List Operation,
      (run {} history).sequence.expectedAck = (run {} history).sequence.nextFrame) ∧
    ¬ ∀ (history : List Operation) (number : UInt8) (payload : List UInt8),
      let last := run {} history
      let frame := Wire.Frame.data number last.sequence.nextFrame false payload
      (last.receive frame.wire).signals.filterMap Signal.mismatch? = [] := by
  let history : List Operation := [.reset, .receive (Wire.Frame.resetAck .powerOn).wire,
    .data [0x55], .receive (Wire.Frame.nak 0).wire]
  constructor
  · intro same
    exact absurd (same history) (by decide +kernel)
  · intro silent
    exact absurd (silent history 0 [0x55]) (by decide +kernel)

end Endpoint
end NcpHost
