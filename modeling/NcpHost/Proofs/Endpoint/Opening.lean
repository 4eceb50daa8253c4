import NcpHost.Endpoint.Run
import NcpHost.Proofs.Endpoint.Frames

/-! The numbers with which a connection opens. A reset sets them to zero, but frames
are read while its answer is on the way too, and each does to the numbers what it
does on a live link. -/
namespace NcpHost

namespace Wire.Frame

/-- The number of a DATA frame. -/
def dataNumber? : Frame → Option UInt8
  | .data number .. => some number
  | _ => none

def nakNumber? : Frame → Option UInt8
  | .nak number => some number
  | _ => none

end Wire.Frame

namespace Sequence

/-- The numbers of a link that is down and has read `frames` since it was reset. -/
def opening (frames : List Wire.Frame) : Sequence where
  nextFrame := (frames.filterMap Wire.Frame.nakNumber?).getLast?.getD 0
  ackToSend := (frames.filterMap Wire.Frame.dataNumber?).getLast?.elim 0
    fun number => (number + 1) % Wire.Control.modulus

theorem accept_opening (frames : List Wire.Frame) {frame : Wire.Frame}
    (other : ∀ code, frame ≠ .resetAck code) :
    (opening frames).accept frame = opening (frames ++ [frame]) := by
  cases frame with
  | data number acked resend payload =>
    by_cases expected : acked = 0 <;>
      simp [opening, accept, Endpoint.accept, expected, List.filterMap_append,
        List.filterMap_cons, Wire.Frame.nakNumber?, Wire.Frame.dataNumber?]
  | ack | nak | reset =>
    simp [opening, accept, Endpoint.accept, List.filterMap_append, List.filterMap_cons,
      Wire.Frame.nakNumber?, Wire.Frame.dataNumber?]
  | resetAck code => exact absurd rfl (other code)

theorem foldl_accept_opening (earlier frames : List Wire.Frame)
    (other : ∀ code, .resetAck code ∉ frames) :
    frames.foldl accept (opening earlier) = opening (earlier ++ frames) := by
  induction frames generalizing earlier with
  | nil => simp
  | cons frame later ih =>
    have first : ∀ code, frame ≠ .resetAck code :=
      fun code same => other code (same ▸ List.mem_cons_self)
    have rest : ∀ code, .resetAck code ∉ later :=
      fun code member => other code (List.mem_cons_of_mem _ member)
    rw [List.foldl_cons, accept_opening earlier first, ih _ rest, List.append_assoc,
      List.singleton_append]

end Sequence

namespace Endpoint

/-- No DATA frame is built, for the first time or again, while the link is down. -/
def Patient (endpoint : Endpoint) : List Operation → Prop
  | [] => True
  | operation :: later =>
    (endpoint.connected = false → operation ≠ .rewind ∧ ∀ payload, operation ≠ .data payload) ∧
      (endpoint.apply operation).endpoint.Patient later

/-- The valid frames that a history reads after its last reset, behind those that
were read before the history since a reset. -/
def sinceReset (endpoint : Endpoint) (earlier : List Wire.Frame) :
    List Operation → List Wire.Frame
  | [] => earlier
  | operation :: later =>
    let read := match operation with
      | .reset => []
      | .receive bytes => earlier ++ endpoint.frames bytes
      | .ack | .data _ | .rewind => earlier
    (endpoint.apply operation).endpoint.sinceReset read later

/-- A link that is down after reading was down before, and read nothing to bring it
up. -/
theorem down_receive {endpoint : Endpoint} {bytes : List UInt8}
    (down : (endpoint.receive bytes).endpoint.connected = false) :
    endpoint.connected = false ∧ ∀ code, .resetAck code ∉ endpoint.frames bytes := by
  have never : ¬ (endpoint.connected = true ∨ ∃ code, .resetAck code ∈ endpoint.frames bytes) := by
    rw [← connected_receive, down]
    decide
  obtain ⟨before, other⟩ := not_or.mp never
  exact ⟨Bool.eq_false_iff.mpr before, fun code member => other ⟨code, member⟩⟩

theorem opening_run (endpoint : Endpoint) (earlier : List Wire.Frame) {history : List Operation}
    (patient : endpoint.Patient history)
    (opens : endpoint.connected = false → endpoint.sequence = .opening earlier)
    (down : (endpoint.run history).connected = false) :
    (endpoint.run history).sequence = .opening (endpoint.sinceReset earlier history) := by
  induction history generalizing endpoint earlier with
  | nil => exact opens down
  | cons operation later ih =>
    obtain ⟨waits, rest⟩ := patient
    refine ih _ _ rest ?_ down
    cases operation with
    | reset => exact fun _ => rfl
    | ack => exact opens
    | data payload => exact fun still => absurd rfl ((waits still).2 payload)
    | rewind => exact fun still => absurd rfl (waits still).1
    | receive bytes =>
      intro still
      obtain ⟨before, other⟩ := down_receive still
      have read := (receive_frames endpoint bytes).2
      rw [opens before, Sequence.foldl_accept_opening _ _ other] at read
      exact read

/-- The byte that brings the link up leaves the numbers alone. -/
theorem sequence_of_connected {endpoint : Endpoint} {byte : UInt8}
    (down : endpoint.connected = false)
    (up : (endpoint.receive [byte]).endpoint.connected = true) :
    (endpoint.receive [byte]).endpoint.sequence = { endpoint.sequence with connected := true } := by
  have read := (receive_frames endpoint [byte]).2
  have single : endpoint.frames [byte] = (endpoint.completed? byte).toList := List.append_nil _
  rw [single] at read
  cases complete : endpoint.completed? byte with
  | none =>
    have same : (endpoint.receive [byte]).endpoint.sequence = endpoint.sequence := by
      rwa [complete] at read
    rw [connected, same] at up
    exact absurd (down.symm.trans up) (by decide)
  | some frame =>
    have taken : (endpoint.receive [byte]).endpoint.sequence = endpoint.sequence.accept frame := by
      rwa [complete] at read
    have before : endpoint.sequence.connected = false := down
    rw [connected, taken, Sequence.connected_accept, before] at up
    obtain ⟨code, rfl⟩ := up.resolve_left (by decide)
    rw [taken, Sequence.accept, Endpoint.accept, if_neg (by simp [connected, before])]

/-- After a reset, and for as long as the link is down and no DATA frame is built on it:
no acknowledgement but number 0 is expected; the next frame number is that of the last
NAK since the reset, the number to acknowledge follows that of the last DATA frame since
the reset, and either is 0 if there was none. The reset acknowledgement changes none of
the three, so they are what the connection opens with. -/
theorem numbers_at_opening (endpoint : Endpoint) (history : List Operation)
    (patient : endpoint.reset.2.Patient history) :
    let last := endpoint.run (.reset :: history)
    let frames := endpoint.reset.2.sinceReset [] history
    last.connected = false →
      last.sequence.expectedAck = 0 ∧
      last.sequence.nextFrame = (frames.filterMap Wire.Frame.nakNumber?).getLast?.getD 0 ∧
      last.sequence.ackToSend = ((frames.filterMap Wire.Frame.dataNumber?).getLast?.elim 0
        fun number => (number + 1) % Wire.Control.modulus) ∧
      ∀ byte, (last.receive [byte]).endpoint.connected = true →
        (last.receive [byte]).endpoint.sequence = { last.sequence with connected := true } := by
  intro last frames down
  have opening : last.sequence = .opening frames :=
    opening_run endpoint.reset.2 [] patient (fun _ => rfl) down
  refine ⟨?_, ?_, ?_, fun byte up => sequence_of_connected down up⟩
  all_goals rw [opening]; rfl

/-- Two frames from before the reset arrive ahead of its answer. -/
theorem numbers_at_opening_after_stale_frames :
    let history : List Operation :=
      [.receive (Wire.Frame.data 3 1 false [0x55]).wire, .ack, .receive (Wire.Frame.nak 6).wire]
    (Endpoint.reset {}).2.Patient history ∧
      (Endpoint.run {} (.reset :: history)).connected = false ∧
      (Endpoint.run {} (.reset :: history)).sequence.expectedAck = 0 ∧
      (Endpoint.run {} (.reset :: history)).sequence.nextFrame = 6 ∧
      (Endpoint.run {} (.reset :: history)).sequence.ackToSend = 4 := by
  intro history
  have patient : (Endpoint.reset {}).2.Patient history :=
    ⟨fun _ => ⟨by simp, by simp⟩, fun _ => ⟨by simp, by simp⟩, fun _ => ⟨by simp, by simp⟩, trivial⟩
  have down : (Endpoint.run {} (.reset :: history)).connected = false := by decide +kernel
  have frames : (Endpoint.reset {}).2.sinceReset [] history =
      [.data 3 1 false [0x55], .nak 6] := by
    decide +kernel
  have opening := numbers_at_opening {} history patient down
  rw [frames] at opening
  obtain ⟨expected, next, acknowledged, -⟩ := opening
  exact ⟨patient, down, expected, next, acknowledged⟩

/-- What is left over from before a reset moves the numbers while its answer is awaited. -/
theorem stale_data_moves_numbers :
    ¬ ∀ (endpoint : Endpoint) (history : List Operation), endpoint.reset.2.Patient history →
      (endpoint.run (.reset :: history)).connected = false →
      (endpoint.run (.reset :: history)).sequence = {} := by
  intro still
  have zero := still {} [.receive (Wire.Frame.data 3 1 false [0x55]).wire]
    ⟨fun _ => ⟨by simp, by simp⟩, trivial⟩ (by decide +kernel)
  revert zero
  decide +kernel

end Endpoint
end NcpHost
