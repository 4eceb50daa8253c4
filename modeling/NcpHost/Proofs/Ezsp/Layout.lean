import NcpHost.Ezsp.Frame

/-! The two layouts of a command frame. The third byte tells them apart, although the mark
that it is compared with is a command id as well: the sender leaves the extended header
out of the version command alone, whose id is another. -/
namespace NcpHost.Ezsp
namespace Frame

/-- The payloads that carry the fields of a frame. The reader does not look at the second
byte of the extended header. -/
inductive LaidOut : List UInt8 → Frame → Prop
  | brief {sequence frameControl commandId : UInt8} {parameters : List UInt8}
      (unmarked : commandId ≠ extendedMark) :
      LaidOut (sequence :: frameControl :: commandId :: parameters)
        ⟨sequence, frameControl, commandId, parameters⟩
  | extended {sequence frameControl commandId : UInt8} {parameters : List UInt8}
      (filler : UInt8) :
      LaidOut (sequence :: frameControl :: extendedMark :: filler :: commandId :: parameters)
        ⟨sequence, frameControl, commandId, parameters⟩

/-- The payload ends before the command id. -/
def Short (data : List UInt8) : Prop :=
  data.length < 3 ∨ data[2]? = some extendedMark ∧ data.length < 5

variable {data : List UInt8} {frame : Frame}

/-- A payload is laid out as a frame, or too short and refused. -/
theorem laidOut_or_refused (data : List UInt8) : (∃ frame, LaidOut data frame) ∨
    Short data ∧ decode data = .error (.tooShort data.length) := by
  rcases data with _ | ⟨sequence, _ | ⟨frameControl, _ | ⟨third, rest⟩⟩⟩
  · exact .inr ⟨.inl (by simp), rfl⟩
  · exact .inr ⟨.inl (by simp), rfl⟩
  · exact .inr ⟨.inl (by simp), rfl⟩
  · by_cases marked : third = extendedMark
    · subst marked
      rcases rest with _ | ⟨filler, _ | ⟨commandId, parameters⟩⟩
      · exact .inr ⟨.inr ⟨rfl, by simp⟩, rfl⟩
      · exact .inr ⟨.inr ⟨rfl, by simp⟩, rfl⟩
      · exact .inl ⟨_, .extended filler⟩
    · exact .inl ⟨_, .brief marked⟩

theorem LaidOut.not_short (laid : LaidOut data frame) : ¬ Short data := by
  cases laid with
  | brief unmarked => simp [Short, unmarked]
  | extended filler => simp [Short]

theorem LaidOut.decode (laid : LaidOut data frame) : Frame.decode data = .ok frame := by
  cases laid with
  | brief unmarked => exact if_neg unmarked
  | extended filler => rfl

theorem decode_eq_ok_iff : decode data = .ok frame ↔ LaidOut data frame := by
  constructor
  · intro read
    rcases laidOut_or_refused data with ⟨other, laid⟩ | ⟨-, refused⟩
    · cases laid.decode.symm.trans read
      exact laid
    · cases refused.symm.trans read
  · exact LaidOut.decode

theorem decode_eq_error_iff {error : FrameError} :
    decode data = .error error ↔ error = .tooShort data.length ∧ Short data := by
  rcases laidOut_or_refused data with ⟨frame, laid⟩ | ⟨short, refused⟩
  · simp [laid.decode, laid.not_short]
  · simp [refused, short, eq_comm]

theorem encode_version (sequence : UInt8) (parameters : List UInt8) :
    encode sequence versionCommand parameters = sequence :: 0 :: versionCommand :: parameters :=
  if_pos rfl

theorem encode_other {commandId : UInt8} (other : commandId ≠ versionCommand) (sequence : UInt8)
    (parameters : List UInt8) :
    encode sequence commandId parameters =
      sequence :: 0 :: extendedMark :: 0 :: commandId :: parameters :=
  if_neg other

theorem laidOut_encode (sequence commandId : UInt8) (parameters : List UInt8) :
    LaidOut (encode sequence commandId parameters) ⟨sequence, 0, commandId, parameters⟩ := by
  by_cases version : commandId = versionCommand
  · subst version
    rw [encode_version]
    exact .brief (by decide)
  · rw [encode_other version]
    exact .extended 0

/-- Sending what was read gives the same payload exactly if its layout is the sender's. -/
theorem LaidOut.encode_eq_iff (laid : LaidOut data frame) (command : frame.frameControl = 0) :
    encode frame.sequence frame.commandId frame.parameters = data ↔
      data[2]? = some extendedMark ∧ data[3]? = some 0 ∧ frame.commandId ≠ versionCommand ∨
        data[2]? ≠ some extendedMark ∧ frame.commandId = versionCommand := by
  have apart : versionCommand ≠ extendedMark := by decide
  cases laid with
  | @brief sequence frameControl commandId parameters unmarked =>
    obtain rfl : frameControl = 0 := command
    by_cases version : commandId = versionCommand
    · simp [version, encode_version, apart]
    · simp [version, encode_other version, unmarked, unmarked.symm]
  | @extended sequence frameControl commandId parameters filler =>
    obtain rfl : frameControl = 0 := command
    by_cases version : commandId = versionCommand
    · simp [version, encode_version, apart]
    · simp [version, encode_other version, eq_comm]

/-- Every command is read back as it was sent, whatever its id. What is read as a command
would be sent the same way exactly if it has the extended header, as the sender writes it,
and is not the version command, or has none and is. And a payload is refused exactly if
it ends before its command id. -/
theorem commands_read_back (sequence commandId : UInt8) (parameters data : List UInt8) :
    decode (encode sequence commandId parameters) = .ok ⟨sequence, 0, commandId, parameters⟩ ∧
    (∀ frame, decode data = .ok frame → frame.frameControl = 0 →
      (encode frame.sequence frame.commandId frame.parameters = data ↔
        data[2]? = some extendedMark ∧ data[3]? = some 0 ∧ frame.commandId ≠ versionCommand ∨
          data[2]? ≠ some extendedMark ∧ frame.commandId = versionCommand)) ∧
    ∀ error, decode data = .error error ↔ error = .tooShort data.length ∧
      (data.length < 3 ∨ data[2]? = some extendedMark ∧ data.length < 5) := by
  refine ⟨(laidOut_encode sequence commandId parameters).decode, ?_, fun _ => decode_eq_error_iff⟩
  intro frame read command
  exact (decode_eq_ok_iff.mp read).encode_eq_iff command

end Frame
end NcpHost.Ezsp
