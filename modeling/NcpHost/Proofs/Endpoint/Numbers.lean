import NcpHost.Proofs.Endpoint.Opening
import NcpHost.Proofs.Wire.Frame

/-! The numbers of one end, as the frames that it reads and builds move them. All of them
count modulo eight. A NAK sets the number of the next frame, a DATA frame the number to
acknowledge; the acknowledgement that is expected, and the mark of a resend, are up to what
the end itself builds. -/
namespace NcpHost

/-- The number after another one. -/
theorem toNat_following (number : UInt8) :
    ((number + 1) % Wire.Control.modulus).toNat = (number.toNat + 1) % 8 := by
  have modulus : Wire.Control.modulus.toNat = 8 := rfl
  rw [UInt8.toNat_mod, UInt8.toNat_add, UInt8.toNat_one, modulus]
  omega

theorem following_lt (number : UInt8) :
    ((number + 1) % Wire.Control.modulus).toNat < 8 := by
  rw [toNat_following]
  exact Nat.mod_lt _ (by decide)

/-- The number before another one. -/
theorem toNat_preceding (number : UInt8) :
    ((number + Wire.Control.modulus - 1) % Wire.Control.modulus).toNat = (number.toNat + 7) % 8 := by
  have modulus : Wire.Control.modulus.toNat = 8 := rfl
  rw [UInt8.toNat_mod, UInt8.toNat_sub, UInt8.toNat_add, UInt8.toNat_one, modulus]
  omega

namespace Sequence

variable (sequence : Sequence)

theorem nextFrame_accept (frame : Wire.Frame) :
    (sequence.accept frame).nextFrame = frame.nakNumber?.elim sequence.nextFrame id := by
  cases frame with
  | data number acked resend payload =>
    by_cases expected : acked = sequence.expectedAck <;>
      simp [accept, Endpoint.accept, expected, Wire.Frame.nakNumber?]
  | resetAck code =>
    by_cases up : sequence.connected = true <;>
      simp [accept, Endpoint.accept, Endpoint.connected, up, Wire.Frame.nakNumber?]
  | ack | nak | reset => rfl

/-- A number that some frames set comes from the last of them. -/
theorem foldl_accept_last {number : Sequence → UInt8} {named? : Wire.Frame → Option UInt8}
    {next : UInt8 → UInt8}
    (each : ∀ sequence frame, number (sequence.accept frame) =
      (named? frame).elim (number sequence) next) (frames : List Wire.Frame) :
    number (frames.foldl accept sequence) =
      (frames.filterMap named?).getLast?.elim (number sequence) next := by
  induction frames generalizing sequence with
  | nil => rfl
  | cons frame later ih =>
    rw [List.foldl_cons, ih, each]
    cases named : named? frame with
    | none => rw [List.filterMap_cons_none named]; rfl
    | some name =>
      rw [List.filterMap_cons_some named, List.getLast?_cons]
      cases (later.filterMap named?).getLast? <;> rfl

theorem ackToSend_accept (frame : Wire.Frame) :
    (sequence.accept frame).ackToSend =
      frame.dataNumber?.elim sequence.ackToSend fun number => (number + 1) % Wire.Control.modulus := by
  cases frame with
  | data number acked resend payload =>
    by_cases expected : acked = sequence.expectedAck <;>
      simp [accept, Endpoint.accept, expected, Wire.Frame.dataNumber?]
  | resetAck code =>
    by_cases up : sequence.connected = true <;>
      simp [accept, Endpoint.accept, Endpoint.connected, up, Wire.Frame.dataNumber?]
  | ack | nak | reset => rfl

theorem expectedAck_foldl (frames : List Wire.Frame) :
    (frames.foldl accept sequence).expectedAck = sequence.expectedAck := by
  induction frames generalizing sequence with
  | nil => rfl
  | cons frame later ih => rw [List.foldl_cons, ih, expectedAck_accept]

end Sequence

namespace Endpoint

variable (endpoint : Endpoint) (bytes : List UInt8)

theorem frames_fit : ∀ frame ∈ endpoint.frames bytes, frame.Fits := by
  induction bytes generalizing endpoint with
  | nil => intro frame member; cases member
  | cons byte rest ih =>
    intro frame member
    rcases List.mem_append.mp member with first | later
    · have complete : endpoint.completed? byte = some frame := Option.mem_toList.mp first
      unfold completed? at complete
      split at complete
      · cases read : Wire.Frame.ofStuffed endpoint.buffer with
        | error error =>
          rw [read] at complete
          cases complete
        | ok other =>
          rw [read] at complete
          cases complete
          exact Wire.Frame.fits_of_ofStuffed read
      · cases complete
    · exact ih _ frame later

variable {endpoint bytes} in
theorem nakNumber_lt {number : UInt8}
    (among : number ∈ (endpoint.frames bytes).filterMap Wire.Frame.nakNumber?) :
    number.toNat < 8 := by
  obtain ⟨frame, read, named⟩ := List.mem_filterMap.mp among
  cases frame with
  | nak asked =>
    cases named
    exact UInt8.lt_iff_toNat_lt.mp (endpoint.frames_fit bytes _ read)
  | data | ack | reset | resetAck => cases named

/-- The last of the NAKs sets the number. -/
theorem nextFrame_receive : (endpoint.receive bytes).endpoint.sequence.nextFrame =
    ((endpoint.frames bytes).filterMap Wire.Frame.nakNumber?).getLast?.getD
      endpoint.sequence.nextFrame := by
  rw [(endpoint.receive_frames bytes).2,
    Sequence.foldl_accept_last _ (·.nextFrame_accept)]
  cases ((endpoint.frames bytes).filterMap Wire.Frame.nakNumber?).getLast? <;> rfl

theorem nextFrame_receive_lt (small : endpoint.sequence.nextFrame.toNat < 8) :
    (endpoint.receive bytes).endpoint.sequence.nextFrame.toNat < 8 := by
  rw [nextFrame_receive]
  cases last : ((endpoint.frames bytes).filterMap Wire.Frame.nakNumber?).getLast? with
  | none => exact small
  | some number => exact nakNumber_lt (List.mem_of_getLast? last)

variable {endpoint bytes} in
/-- Without a NAK the number of the next frame stays. -/
theorem nextFrame_receive_of_not_mem (none : ∀ number, .nak number ∉ endpoint.frames bytes) :
    (endpoint.receive bytes).endpoint.sequence.nextFrame = endpoint.sequence.nextFrame := by
  have empty : (endpoint.frames bytes).filterMap Wire.Frame.nakNumber? = [] := by
    refine List.filterMap_eq_nil_iff.mpr fun frame read => ?_
    cases frame with
    | nak number => exact absurd read (none number)
    | data | ack | reset | resetAck => rfl
  rw [nextFrame_receive, empty]
  rfl

/-- The last of the DATA frames is the one to acknowledge. -/
theorem ackToSend_receive : (endpoint.receive bytes).endpoint.sequence.ackToSend =
    ((endpoint.frames bytes).filterMap Wire.Frame.dataNumber?).getLast?.elim
      endpoint.sequence.ackToSend fun number => (number + 1) % Wire.Control.modulus := by
  rw [(endpoint.receive_frames bytes).2,
    Sequence.foldl_accept_last _ (·.ackToSend_accept)]

theorem expectedAck_receive :
    (endpoint.receive bytes).endpoint.sequence.expectedAck = endpoint.sequence.expectedAck := by
  rw [(endpoint.receive_frames bytes).2, Sequence.expectedAck_foldl]

theorem resendNext_accept (frame : Wire.Frame) :
    (endpoint.accept frame).endpoint.resendNext = endpoint.resendNext := by
  cases frame <;> simp only [accept] <;> (repeat' split) <;> rfl

theorem resendNext_close : endpoint.close.endpoint.resendNext = endpoint.resendNext := by
  unfold close
  dsimp only
  repeat' split
  · rfl
  · rfl
  · exact resendNext_accept _ _
  · rfl

/-- Reading marks nothing as a resend. -/
theorem resendNext_receive :
    (endpoint.receive bytes).endpoint.resendNext = endpoint.resendNext := by
  induction bytes generalizing endpoint with
  | nil => rfl
  | cons byte rest ih =>
    refine (ih _).trans ?_
    by_cases closes : byte = Wire.flag
    · subst closes
      exact resendNext_close endpoint
    · simp only [feed, closes, if_false]
      repeat' split
      all_goals rfl

end Endpoint
end NcpHost
