import NcpHost.Proofs.Wire.Frame

/-! Which stuffed bytes are no frame for the receiver, told from the bytes: by what is wrong
with their shape, their check sequence, their control byte or a reset acknowledgement's
content. Each of these goes on one of three counts. The other way round, what bytes have to
be to bring a link up. -/
namespace NcpHost.Wire

/-- How a received frame is lost, as it is counted. -/
inductive Loss where
  | checksum
  | framing
  | rejected
  deriving DecidableEq, Repr

def FrameError.loss : FrameError → Loss
  | .badChecksum _ => .checksum
  | .tooShort _ | .danglingEscape => .framing
  | .unsupportedVersion _ | .rejectedResetCode _ | .peerFault .. | .unknownControl _ => .rejected

/-- The stuffed bytes stand for `body` and two bytes of check sequence that are right for it. -/
def Carries (stuffed body : List UInt8) : Prop :=
  ∃ check, check.length = 2 ∧ unstuff stuffed = .ok (body ++ check) ∧ Crc.Intact (body ++ check)

/-- The codes with which an adapter may answer a reset: power-on, bootloader, software. -/
def handshakeCodes : List UInt8 := [0x02, 0x09, 0x0B]

/-- What is wrong with bytes that are no frame for the receiver. -/
inductive Refused (stuffed : List UInt8) : Loss → Prop
  | dangling (cut : unstuff stuffed = .error .danglingEscape) : Refused stuffed .framing
  | short {frame : List UInt8} (read : unstuff stuffed = .ok frame) (few : frame.length < 3) :
      Refused stuffed .framing
  | garbled {frame : List UInt8} (read : unstuff stuffed = .ok frame) (long : 3 ≤ frame.length)
      (differs : ¬ Crc.Intact frame) : Refused stuffed .checksum
  | shortResetAck {content : List UInt8}
      (body : Carries stuffed (Control.resetAckByte :: content)) (few : content.length < 2) :
      Refused stuffed .framing
  | version {version code : UInt8} {more : List UInt8}
      (body : Carries stuffed (Control.resetAckByte :: version :: code :: more))
      (other : version ≠ protocolVersion) : Refused stuffed .rejected
  | resetCode {code : UInt8} {more : List UInt8}
      (body : Carries stuffed (Control.resetAckByte :: protocolVersion :: code :: more))
      (other : code ∉ handshakeCodes) : Refused stuffed .rejected
  | peerFault {content : List UInt8} (body : Carries stuffed (Control.errorByte :: content)) :
      Refused stuffed .rejected
  /-- The control bytes above that of a fault report have no meaning. -/
  | unknown {control : UInt8} {content : List UInt8} (body : Carries stuffed (control :: content))
      (beyond : Control.errorByte < control) : Refused stuffed .rejected

theorem ResetCode.completesHandshake_ofByte (byte : UInt8) :
    (ofByte byte).CompletesHandshake ↔ byte ∈ handshakeCodes := by
  constructor
  · intro completes
    have named : byte = (ofByte byte).byte := (byte_ofByte byte).symm
    simp only [CompletesHandshake, List.mem_cons, List.not_mem_nil, or_false] at completes
    rcases completes with same | same | same <;> rw [same] at named <;> rw [named] <;> decide
  · intro accepted
    simp only [handshakeCodes, List.mem_cons, List.not_mem_nil, or_false] at accepted
    rcases accepted with rfl | rfl | rfl <;> decide

namespace Control

/-- The byte of a kind of frame that has only one. -/
def byte? : Control → Option UInt8
  | .reset => some resetByte
  | .resetAck => some resetAckByte
  | .error => some errorByte
  | .unknown byte => some byte
  | .data .. | .ack .. | .nak .. => none

theorem eq_of_byte? {byte named : UInt8} (only : (ofByte byte).byte? = some named) :
    byte = named := by
  unfold ofByte at only
  repeat' split at only
  all_goals cases only
  all_goals first | assumption | rfl

theorem isUnknown_iff (byte : UInt8) : ofByte byte = .unknown byte ↔ errorByte < byte := by
  obtain ⟨n, rfl⟩ : ∃ n : Fin 256, byte = UInt8.ofNat n :=
    ⟨⟨byte.toNat, byte.toNat_lt⟩, UInt8.ofNat_toNat.symm⟩
  revert n
  decide +kernel

end Control

namespace Frame

theorem ofStuffed_of_cut {stuffed : List UInt8} (cut : unstuff stuffed = .error .danglingEscape) :
    ofStuffed stuffed = .error .danglingEscape := by
  simp only [ofStuffed, cut]

theorem ofStuffed_of_short {stuffed frame : List UInt8} (read : unstuff stuffed = .ok frame)
    (few : frame.length < 3) : ofStuffed stuffed = .error (.tooShort frame.length) := by
  simp only [ofStuffed, read, few, if_true]

theorem ofStuffed_of_garbled {stuffed frame : List UInt8} (read : unstuff stuffed = .ok frame)
    (long : 3 ≤ frame.length) (differs : ¬ Crc.Intact frame) :
    ofStuffed stuffed = .error (.badChecksum (Crc.checksum frame)) := by
  simp only [ofStuffed, read, Nat.not_lt.mpr long, differs, if_false]

theorem ofStuffed_of_carries {stuffed : List UInt8} {control : UInt8} {content : List UInt8}
    (carries : Carries stuffed (control :: content)) :
    ofStuffed stuffed = ofBody (control :: content) := by
  obtain ⟨check, two, read, intact⟩ := carries
  have length : (control :: content ++ check).length = content.length + 3 := by
    rw [List.length_append, List.length_cons, two]
  have long : ¬ (control :: content ++ check).length < 3 := by omega
  have front : (control :: content ++ check).take ((control :: content ++ check).length - 2) =
      control :: content := by
    rw [length]
    exact List.take_left' rfl
  simp only [ofStuffed, read, long, intact, front, if_true, if_false]

theorem carries_of_intact {stuffed frame : List UInt8} (read : unstuff stuffed = .ok frame)
    (long : 3 ≤ frame.length) (intact : Crc.Intact frame) :
    ∃ control content, Carries stuffed (control :: content) := by
  have whole : frame.take (frame.length - 2) ++ frame.drop (frame.length - 2) = frame :=
    List.take_append_drop _ _
  have two : (frame.drop (frame.length - 2)).length = 2 := by
    rw [List.length_drop]
    omega
  obtain ⟨control, content, body⟩ : ∃ control content,
      frame.take (frame.length - 2) = control :: content := by
    refine List.exists_cons_of_length_pos ?_
    rw [List.length_take]
    omega
  rw [body] at whole
  exact ⟨control, content, _, two, by rw [whole, read], by rwa [whole]⟩

/-- Bytes are refused for their shape or their check sequence, or they carry a body. -/
theorem refused_or_carries (stuffed : List UInt8) :
    (∃ error, ofStuffed stuffed = .error error ∧ Refused stuffed error.loss) ∨
      ∃ control content, Carries stuffed (control :: content) := by
  cases read : unstuff stuffed with
  | error error =>
    cases error
    exact .inl ⟨_, ofStuffed_of_cut read, .dangling read⟩
  | ok frame =>
    by_cases few : frame.length < 3
    · exact .inl ⟨_, ofStuffed_of_short read few, .short read few⟩
    · have long : 3 ≤ frame.length := Nat.le_of_not_lt few
      by_cases intact : Crc.Intact frame
      · exact .inr (carries_of_intact read long intact)
      · exact .inl ⟨_, ofStuffed_of_garbled read long intact, .garbled read long intact⟩

/-- A body that is refused is a reset acknowledgement that does not answer a reset, a fault
report, or unknown. -/
theorem refused_of_ofBody {stuffed : List UInt8} {control : UInt8} {content : List UInt8}
    {error : FrameError} (carries : Carries stuffed (control :: content))
    (read : ofBody (control :: content) = .error error) : Refused stuffed error.loss := by
  cases kind : Control.ofByte control with
  | data | ack | nak | reset => simp [ofBody, kind] at read
  | error =>
    obtain rfl : control = _ := Control.eq_of_byte? (congrArg Control.byte? kind)
    simp only [ofBody, kind] at read
    cases read
    exact .peerFault carries
  | unknown byte =>
    obtain rfl : control = byte := Control.eq_of_byte? (congrArg Control.byte? kind)
    simp only [ofBody, kind] at read
    cases read
    exact .unknown carries ((Control.isUnknown_iff _).mp kind)
  | resetAck =>
    obtain rfl : control = _ := Control.eq_of_byte? (congrArg Control.byte? kind)
    simp only [ofBody, kind] at read
    split at read
    · next version code more =>
      split at read
      · next supported =>
        subst supported
        split at read
        · cases read
        · next refused =>
          cases read
          rw [ResetCode.completesHandshake_ofByte] at refused
          exact .resetCode carries refused
      · next other =>
        cases read
        exact .version carries other
    · next short =>
      cases read
      refine .shortResetAck carries ?_
      rcases content with _ | ⟨version, _ | ⟨code, more⟩⟩
      · exact Nat.succ_pos 1
      · exact Nat.lt_succ_self 1
      · exact absurd rfl (short version code more)

/-- What is refused is exactly what is no frame for the receiver. -/
theorem refused_iff {stuffed : List UInt8} {loss : Loss} :
    Refused stuffed loss ↔ ∃ error, ofStuffed stuffed = .error error ∧ error.loss = loss := by
  constructor
  · intro refused
    cases refused with
    | dangling cut => exact ⟨_, ofStuffed_of_cut cut, rfl⟩
    | short read few => exact ⟨_, ofStuffed_of_short read few, rfl⟩
    | garbled read long differs => exact ⟨_, ofStuffed_of_garbled read long differs, rfl⟩
    | @shortResetAck content body few =>
      rw [ofStuffed_of_carries body]
      rcases content with _ | ⟨version, _ | ⟨code, more⟩⟩
      · exact ⟨_, rfl, rfl⟩
      · exact ⟨_, rfl, rfl⟩
      · simp only [List.length_cons] at few
        omega
    | version body other =>
      rw [ofStuffed_of_carries body]
      exact ⟨.unsupportedVersion _, if_neg other, rfl⟩
    | @resetCode code more body other =>
      have refused : ofBody (Control.resetAckByte :: protocolVersion :: code :: more) =
          .error (.rejectedResetCode (.ofByte code)) := by
        rw [← ResetCode.completesHandshake_ofByte] at other
        exact if_neg other
      rw [ofStuffed_of_carries body]
      exact ⟨_, refused, rfl⟩
    | peerFault body =>
      rw [ofStuffed_of_carries body]
      exact ⟨_, rfl, rfl⟩
    | @unknown control content body beyond =>
      have refused : ofBody (control :: content) = .error (.unknownControl control) := by
        simp only [ofBody, (Control.isUnknown_iff control).mpr beyond]
      rw [ofStuffed_of_carries body]
      exact ⟨_, refused, rfl⟩
  · rintro ⟨error, read, rfl⟩
    rcases refused_or_carries stuffed with ⟨same, found, refused⟩ | ⟨control, content, carries⟩
    · rw [read] at found
      cases found
      exact refused
    · rw [ofStuffed_of_carries carries] at read
      exact refused_of_ofBody carries read

/-- A frame for the receiver is read from a body. -/
theorem carries_of_ofStuffed {stuffed : List UInt8} {frame : Frame}
    (read : ofStuffed stuffed = .ok frame) :
    ∃ control content, Carries stuffed (control :: content) ∧
      ofBody (control :: content) = .ok frame := by
  rcases refused_or_carries stuffed with ⟨error, found, -⟩ | ⟨control, content, carries⟩
  · rw [read] at found
    cases found
  · exact ⟨control, content, carries, ofStuffed_of_carries carries ▸ read⟩

/-- A reset acknowledgement for the receiver names the version and a code that answers a
reset. -/
theorem ofStuffed_resetAck_iff {stuffed : List UInt8} {code : ResetCode} :
    ofStuffed stuffed = .ok (.resetAck code) ↔
      ∃ byte more, Carries stuffed (Control.resetAckByte :: protocolVersion :: byte :: more) ∧
        byte ∈ handshakeCodes ∧ code = .ofByte byte := by
  constructor
  · intro read
    obtain ⟨control, content, carries, body⟩ := carries_of_ofStuffed read
    cases kind : Control.ofByte control with
    | data | ack | nak | reset | error | unknown => simp [ofBody, kind] at body
    | resetAck =>
      obtain rfl : control = _ := Control.eq_of_byte? (congrArg Control.byte? kind)
      simp only [ofBody, kind] at body
      repeat' split at body
      · next version byte more supported completes =>
        subst supported
        cases body
        have accepted := (ResetCode.completesHandshake_ofByte byte).mp completes
        exact ⟨byte, more, carries, accepted, rfl⟩
      all_goals cases body
  · rintro ⟨byte, more, carries, accepted, rfl⟩
    rw [ofStuffed_of_carries carries]
    rw [← ResetCode.completesHandshake_ofByte] at accepted
    exact if_pos accepted

theorem ofStuffed_reset_iff {stuffed : List UInt8} :
    ofStuffed stuffed = .ok .reset ↔ ∃ content, Carries stuffed (Control.resetByte :: content) := by
  constructor
  · intro read
    obtain ⟨control, content, carries, body⟩ := carries_of_ofStuffed read
    cases kind : Control.ofByte control with
    | data | ack | nak | error | unknown => simp [ofBody, kind] at body
    | reset =>
      obtain rfl : control = _ := Control.eq_of_byte? (congrArg Control.byte? kind)
      exact ⟨content, carries⟩
    | resetAck =>
      simp only [ofBody, kind] at body
      repeat' split at body
      all_goals cases body
  · rintro ⟨content, carries⟩
    rw [ofStuffed_of_carries carries]
    rfl

end Frame
end NcpHost.Wire
