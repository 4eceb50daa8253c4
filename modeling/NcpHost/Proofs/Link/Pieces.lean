import NcpHost.Proofs.Endpoint.Stream
import NcpHost.Proofs.Endpoint.Frames
import NcpHost.Proofs.Link.Steps

/-! Bytes for the link in two pieces: which frames each completes, what the owner of the
link is told of them, and what becomes of the numbers if a DATA frame is sent between the
pieces instead of after them. -/
namespace NcpHost

/-- Events that the owner of a link does nothing about. -/
def LinkEvent.isIdle : LinkEvent → Bool
  | .ackObserved _ | .ackMismatch .. | .resetReceived | .ackTimeout .logOnly => true
  | .payload _ | .connected _ | .nakObserved _ | .resetFailed | .ackTimeout .retransmit => false

namespace Wire.Frame

/-- A frame that brings the link up. -/
def raises : Frame → Bool
  | .resetAck _ => true
  | _ => false

/-- What a frame tells the owner of a link that is up or down when it comes, but for
idle events. -/
def tells (up : Bool) : Frame → List LinkEvent
  | .data _ _ _ payload => [.payload payload]
  | .nak number => [.nakObserved number]
  | .resetAck code => if up then [] else [.connected code]
  | .ack _ | .reset => []

def told (up : Bool) : List Frame → List LinkEvent
  | [] => []
  | frame :: later => frame.tells up ++ told (up || frame.raises) later

/-- Of which frames an event is told. -/
theorem mem_of_told {up : Bool} {frames : List Frame} {event : LinkEvent}
    (member : event ∈ told up frames) :
    (∃ payload, event = .payload payload) ∨
      (∃ number, event = .nakObserved number ∧ .nak number ∈ frames) ∨
      ∃ code, event = .connected code ∧ .resetAck code ∈ frames := by
  induction frames generalizing up with
  | nil => cases member
  | cons frame later ih =>
    rcases List.mem_append.mp member with first | rest
    · cases frame with
      | data number acked resend payload =>
        exact .inl ⟨payload, List.mem_singleton.mp first⟩
      | nak number => exact .inr (.inl ⟨number, List.mem_singleton.mp first, List.mem_cons_self⟩)
      | resetAck code =>
        cases up with
        | true => cases first
        | false => exact .inr (.inr ⟨code, List.mem_singleton.mp first, List.mem_cons_self⟩)
      | ack | reset => cases first
    · rcases ih rest with payload | ⟨number, same, among⟩ | ⟨code, same, among⟩
      · exact .inl payload
      · exact .inr (.inl ⟨number, same, List.mem_cons_of_mem _ among⟩)
      · exact .inr (.inr ⟨code, same, List.mem_cons_of_mem _ among⟩)

theorem nakObserved_mem_told {number : UInt8} {frames : List Frame} (among : .nak number ∈ frames)
    (up : Bool) : .nakObserved number ∈ told up frames := by
  induction frames generalizing up with
  | nil => cases among
  | cons frame later ih =>
    rcases List.mem_cons.mp among with rfl | among
    · exact List.mem_cons_self
    · exact List.mem_append_right _ (ih among _)

end Wire.Frame

namespace Sequence
open Wire.Frame (told)

variable (sequence : Sequence) {frame : Wire.Frame} {frames : List Wire.Frame}

theorem raised_accept (frame : Wire.Frame) :
    (sequence.accept frame).connected = (sequence.connected || frame.raises) := by
  rw [Bool.eq_iff_iff, connected_accept, Bool.or_eq_true]
  cases frame with
  | resetAck code => simp [Wire.Frame.raises]
  | data | ack | nak | reset => simp [Wire.Frame.raises]

theorem tells_accept (frame : Wire.Frame) :
    ((Endpoint.accept { sequence } frame).signals.filterMap Signal.event?).filter (!·.isIdle) =
      frame.tells sequence.connected := by
  cases frame with
  | data number acked resend payload =>
    by_cases expected : acked = sequence.expectedAck
    · rw [Endpoint.accept, if_pos expected]
      rfl
    · rw [Endpoint.accept, if_neg expected]
      rfl
  | resetAck code =>
    by_cases up : sequence.connected = true <;>
      simp only [Endpoint.accept, Endpoint.connected, Wire.Frame.tells, up, if_true, if_false,
        Bool.false_eq_true] <;> rfl
  | ack | nak | reset => rfl

/-- Which acknowledgement is expected makes no difference to what is told. -/
theorem told_signals (frames : List Wire.Frame) :
    ((sequence.signals frames).filterMap Signal.event?).filter (!·.isIdle) =
      told sequence.connected frames := by
  induction frames generalizing sequence with
  | nil => rfl
  | cons frame later ih =>
    rw [signals, List.filterMap_append, List.filter_append, tells_accept, ih, raised_accept, told]

theorem told_append (front back : List Wire.Frame) :
    told sequence.connected (front ++ back) =
      told sequence.connected front ++ told (front.foldl accept sequence).connected back := by
  induction front generalizing sequence with
  | nil => rfl
  | cons frame later ih =>
    have next := ih (sequence.accept frame)
    rw [raised_accept] at next
    rw [List.cons_append, told, told, next, List.append_assoc, List.foldl_cons]

/-- Frames of which nothing is told leave the numbers alone. -/
theorem foldl_accept_of_told_nil (silent : told sequence.connected frames = []) :
    frames.foldl accept sequence = sequence := by
  induction frames with
  | nil => rfl
  | cons frame later ih =>
    obtain ⟨first, rest⟩ := List.append_eq_nil_iff.mp silent
    have same : sequence.accept frame = sequence := by
      cases frame with
      | data | nak => cases first
      | ack | reset => rfl
      | resetAck code =>
        by_cases up : sequence.connected = true
        · simp [accept, Endpoint.accept, Endpoint.connected, up]
        · simp [Wire.Frame.tells, up] at first
    rw [← raised_accept, same] at rest
    rw [List.foldl_cons, same, ih rest]

/-- The next DATA frame goes out. -/
def advance (sequence : Sequence) : Sequence :=
  { sequence with
    nextFrame := (sequence.nextFrame + 1) % Wire.Control.modulus
    expectedAck := (sequence.nextFrame + 1) % Wire.Control.modulus }

theorem accept_advance (other : ∀ number, frame ≠ .nak number) :
    sequence.advance.accept frame = (sequence.accept frame).advance := by
  cases frame with
  | data number acked resend payload =>
    by_cases before : acked = sequence.expectedAck <;>
      by_cases after : acked = sequence.advance.expectedAck <;>
        simp_all [accept, Endpoint.accept, advance]
  | ack | reset => rfl
  | nak number => exact absurd rfl (other number)
  | resetAck code =>
    by_cases up : sequence.connected = true <;>
      simp [accept, Endpoint.accept, Endpoint.connected, advance, up]

/-- Only a NAK minds whether a DATA frame goes out before it or after. -/
theorem foldl_accept_advance (quiet : ∀ number, .nak number ∉ frames) :
    frames.foldl accept sequence.advance = (frames.foldl accept sequence).advance := by
  induction frames generalizing sequence with
  | nil => rfl
  | cons frame later ih =>
    have other : ∀ number, frame ≠ .nak number :=
      fun number same => quiet number (same ▸ List.mem_cons_self)
    have rest : ∀ number, .nak number ∉ later :=
      fun number member => quiet number (List.mem_cons_of_mem _ member)
    rw [List.foldl_cons, accept_advance sequence other, ih _ rest, List.foldl_cons]

end Sequence

namespace Endpoint

theorem frames_append (endpoint : Endpoint) (front back : List UInt8) :
    endpoint.frames (front ++ back) =
      endpoint.frames front ++ (endpoint.receive front).endpoint.frames back := by
  induction front generalizing endpoint with
  | nil => rfl
  | cons byte rest ih => simp [frames, receive, ih, List.append_assoc]

/-- What is left of a frame in progress is up to what was there of it. -/
theorem feed_congr {endpoint other : Endpoint} (buffer : other.buffer = endpoint.buffer)
    (corrupt : other.corrupt = endpoint.corrupt) (byte : UInt8) :
    (other.feed byte).endpoint.buffer = (endpoint.feed byte).endpoint.buffer ∧
      (other.feed byte).endpoint.corrupt = (endpoint.feed byte).endpoint.corrupt := by
  by_cases closes : byte = Wire.flag
  · subst closes
    obtain ⟨empty, clean⟩ := clear_close endpoint
    obtain ⟨also, too⟩ := clear_close other
    exact ⟨also.trans empty.symm, too.trans clean.symm⟩
  · simp only [feed, closes, if_false, buffer]
    repeat' split
    all_goals exact ⟨by simp [buffer], by simp [corrupt]⟩

/-- Which frames come out of bytes is up to the frame in progress. -/
theorem frames_congr {endpoint other : Endpoint} (buffer : other.buffer = endpoint.buffer)
    (corrupt : other.corrupt = endpoint.corrupt) (bytes : List UInt8) :
    other.frames bytes = endpoint.frames bytes := by
  induction bytes generalizing endpoint other with
  | nil => rfl
  | cons byte rest ih =>
    have complete : other.completed? byte = endpoint.completed? byte := by
      simp only [completed?, buffer, corrupt]
    obtain ⟨grown, still⟩ := feed_congr buffer corrupt byte
    simp only [frames, complete, ih grown still]

theorem dataSent_countError (tally : Tally) (error : Wire.FrameError) :
    (tally.countError error).dataSent = tally.dataSent := by
  cases error <;> rfl

theorem dataSent_accept (endpoint : Endpoint) (frame : Wire.Frame) :
    (endpoint.accept frame).endpoint.tally.dataSent = endpoint.tally.dataSent := by
  cases frame <;> simp only [accept] <;> (repeat' split) <;> rfl

theorem dataSent_close (endpoint : Endpoint) :
    endpoint.close.endpoint.tally.dataSent = endpoint.tally.dataSent := by
  unfold close
  dsimp only
  split
  · rfl
  · split
    · rfl
    · split
      · exact dataSent_accept _ _
      · exact dataSent_countError _ _

/-- Reading sends nothing. -/
theorem dataSent_receive (endpoint : Endpoint) (bytes : List UInt8) :
    (endpoint.receive bytes).endpoint.tally.dataSent = endpoint.tally.dataSent := by
  induction bytes generalizing endpoint with
  | nil => rfl
  | cons byte rest ih =>
    refine (ih _).trans ?_
    by_cases closes : byte = Wire.flag
    · subst closes
      exact dataSent_close endpoint
    · simp only [feed, closes, if_false]
      repeat' split
      all_goals rfl

end Endpoint
end NcpHost
