import Mathlib.Data.List.DropRight
import NcpHost.Endpoint.Run

/-! A stream read as a whole: it is cut at its flags, and each closed segment is
judged by itself. Reading byte by byte, in whatever pieces the bytes arrive, comes
to the same; a flag or a cancel byte leaves nothing of what went before. -/
namespace NcpHost

namespace Wire

/-- The segments that a flag closes. What follows the last flag is none of them. -/
def segments (stream : List UInt8) : List (List UInt8) := (stream.splitOn flag).dropLast

/-- What follows the last cancel byte of a segment. -/
def standing (segment : List UInt8) : List UInt8 := segment.rtakeWhile (· ≠ cancel)

/-- The bytes of a segment that need room; if it has no substitute, its frame. -/
def content (segment : List UInt8) : List UInt8 :=
  (standing segment).filter fun byte => byte ≠ xon ∧ byte ≠ xoff ∧ byte ≠ substitute

theorem standing_concat (segment : List UInt8) (byte : UInt8) :
    standing (segment ++ [byte]) = if byte = cancel then [] else standing segment ++ [byte] := by
  by_cases dropped : byte = cancel <;> simp [standing, dropped]

theorem content_concat (segment : List UInt8) {byte : UInt8} (kept : byte ≠ cancel) :
    content (segment ++ [byte]) = content segment ++
      if byte ≠ xon ∧ byte ≠ xoff ∧ byte ≠ substitute then [byte] else [] := by
  rw [content, standing_concat, if_neg kept, List.filter_append, List.filter_singleton,
    Bool.cond_decide]
  rfl

theorem segments_of_not_mem {stream : List UInt8} (free : flag ∉ stream) :
    segments stream = [] := by
  rw [segments, List.splitOn_eq_singleton free]
  rfl

theorem segments_append_cons {segment rest : List UInt8} (free : flag ∉ segment) :
    segments (segment ++ flag :: rest) = segment :: segments rest := by
  rw [segments, List.splitOn_append_cons_self_of_not_mem free,
    List.dropLast_cons_of_ne_nil (List.splitOn_ne_nil flag rest)]
  rfl

end Wire

namespace Endpoint
open Wire (segments standing content)

/-- A segment that is lost whatever its other bytes are. -/
def Spoilt (segment : List UInt8) : Prop :=
  Wire.substitute ∈ standing segment ∨ maxStuffed < (content segment).length

instance (segment : List UInt8) : Decidable (Spoilt segment) :=
  inferInstanceAs (Decidable (_ ∨ _))

/-- Reads a closed segment as a whole. -/
def readSegment (endpoint : Endpoint) (segment : List UInt8) : Intake :=
  if Spoilt segment then
    { endpoint := { endpoint with tally.framingErrors := endpoint.tally.framingErrors + 1 } }
  else if (content segment).isEmpty then { endpoint }
  else
    match Wire.Frame.ofStuffed (content segment) with
    | .ok frame => endpoint.accept frame
    | .error error =>
      { endpoint := { endpoint with tally := endpoint.tally.countError error }
        notes := [.frameDropped error] }

/-- Reads closed segments one after the other. -/
def readSegments (endpoint : Endpoint) : List (List UInt8) → Intake
  | [] => { endpoint }
  | segment :: later =>
    let first := endpoint.readSegment segment
    let rest := first.endpoint.readSegments later
    { rest with
      signals := first.signals ++ rest.signals
      notes := first.notes ++ rest.notes }

/-- Nothing is left of earlier bytes. -/
structure Clear (endpoint : Endpoint) : Prop where
  buffer : endpoint.buffer = []
  corrupt : endpoint.corrupt = false

/-- The state after the bytes of a segment that is not closed yet, told from those
bytes alone. -/
def within (endpoint : Endpoint) (segment : List UInt8) : Endpoint :=
  { endpoint with
    buffer := (content segment).take maxStuffed
    corrupt := decide (Spoilt segment) }

variable {endpoint : Endpoint}

theorem Clear.within_nil (clear : endpoint.Clear) : endpoint.within [] = endpoint := by
  obtain ⟨sequence, buffer, corrupt, resendNext, tally⟩ := endpoint
  obtain ⟨rfl, rfl⟩ := clear
  rfl

/-- Any byte but a flag leads from the state of a segment to that of the segment
with the byte. -/
theorem feed_within (endpoint : Endpoint) (segment : List UInt8) {byte : UInt8}
    (inside : byte ≠ Wire.flag) :
    ((endpoint.within segment).feed byte).endpoint = endpoint.within (segment ++ [byte]) ∧
      ((endpoint.within segment).feed byte).signals = [] := by
  by_cases dropped : byte = Wire.cancel
  · subst dropped
    have nothing : standing (segment ++ [Wire.cancel]) = [] := by simp [Wire.standing_concat]
    have unspoilt : ¬ Spoilt (segment ++ [Wire.cancel]) := by simp [Spoilt, content, nothing]
    simp [feed, within, content, nothing, unspoilt]
  have standing := Wire.standing_concat segment byte
  have counted := Wire.content_concat segment dropped
  rw [if_neg dropped] at standing
  by_cases garbled : byte = Wire.substitute
  · subst garbled
    have spoilt : Spoilt (segment ++ [Wire.substitute]) := .inl (by simp [standing])
    simp [feed, within, dropped, inside, spoilt, counted]
  by_cases flow : byte = Wire.xon ∨ byte = Wire.xoff
  · have same : content (segment ++ [byte]) = content segment := by
      rw [counted, if_neg (by rcases flow with rfl | rfl <;> simp), List.append_nil]
    have still : Spoilt (segment ++ [byte]) ↔ Spoilt segment := by
      simp [Spoilt, same, standing, Ne.symm garbled]
    simp [feed, within, dropped, inside, garbled, flow, same, still]
  · have longer : content (segment ++ [byte]) = content segment ++ [byte] := by
      rw [counted, if_pos ⟨fun same => flow (.inl same), fun same => flow (.inr same), garbled⟩]
    have length : (content segment ++ [byte]).length = (content segment).length + 1 :=
      List.length_append
    by_cases room : (content segment).length < maxStuffed
    · have spoilt : Spoilt (segment ++ [byte]) ↔ Spoilt segment := by
        have before : ¬ maxStuffed < (content segment).length := by omega
        have after : ¬ maxStuffed < (content segment).length + 1 := by omega
        simp only [Spoilt, longer, length, standing, before, after, List.mem_append,
          List.mem_singleton, Ne.symm garbled, or_false]
      have whole : (content segment ++ [byte]).length ≤ maxStuffed := by omega
      simp [feed, within, dropped, inside, garbled, flow, longer, spoilt, room,
        List.take_of_length_le whole, List.take_of_length_le (Nat.le_of_lt room)]
    · have spoilt : Spoilt (segment ++ [byte]) := .inr (by rw [longer, length]; omega)
      have full : ¬ ((content segment).take maxStuffed).length < maxStuffed := by
        rw [List.length_take]
        omega
      have cut : (content segment ++ [byte]).take maxStuffed = (content segment).take maxStuffed :=
        List.take_append_of_le_length (Nat.not_lt.mp room)
      simp only [feed, within, dropped, inside, garbled, flow, longer, spoilt, full, cut,
        decide_true, if_false, and_self]

theorem receive_within (endpoint : Endpoint) (segment : List UInt8) {more : List UInt8}
    (inside : Wire.flag ∉ more) :
    ((endpoint.within segment).receive more).endpoint = endpoint.within (segment ++ more) ∧
      ((endpoint.within segment).receive more).signals = [] := by
  induction more generalizing segment with
  | nil => simp
  | cons byte rest ih =>
    obtain ⟨notFlag, free⟩ := List.ne_and_not_mem_of_not_mem_cons inside
    obtain ⟨grown, silent⟩ := feed_within endpoint segment (Ne.symm notFlag)
    obtain ⟨last, quiet⟩ := ih (segment ++ [byte]) free
    simp only [receive, grown, silent, last, quiet, List.append_assoc, List.singleton_append,
      List.nil_append, and_self]

theorem Clear.accept (clear : endpoint.Clear) (frame : Wire.Frame) :
    (endpoint.accept frame).endpoint.Clear := by
  obtain ⟨buffer, corrupt⟩ := clear
  cases frame <;> simp only [Endpoint.accept] <;> (repeat' split) <;> exact ⟨buffer, corrupt⟩

theorem clear_close (endpoint : Endpoint) : endpoint.close.endpoint.Clear := by
  have fresh : Clear { endpoint with buffer := [], corrupt := false } := ⟨rfl, rfl⟩
  unfold close
  dsimp only
  split
  · exact ⟨rfl, rfl⟩
  · split
    · exact fresh
    · split
      · exact fresh.accept _
      · exact ⟨rfl, rfl⟩

/-- The flag has the segment judged as a whole. -/
theorem close_within (clear : endpoint.Clear) (segment : List UInt8) :
    (endpoint.within segment).close = endpoint.readSegment segment := by
  obtain ⟨sequence, buffer, corrupt, resendNext, tally⟩ := endpoint
  obtain ⟨rfl, rfl⟩ := clear
  by_cases spoilt : Spoilt segment
  · simp [close, within, readSegment, spoilt]
  · have whole : (content segment).take maxStuffed = content segment :=
      List.take_of_length_le (Nat.not_lt.mp (not_or.mp spoilt).2)
    cases read : Wire.Frame.ofStuffed (content segment) with
    | ok | error => simp [close, within, readSegment, spoilt, whole, read]

/-- From a clear state, a stream is read as its closed segments are; what is left
of it is within the next one. -/
theorem receive_segments (start : Endpoint) (clear : start.Clear) (stream : List UInt8) :
    (start.receive stream).signals = (start.readSegments (segments stream)).signals ∧
      ∃ rest, (start.receive stream).endpoint =
        (start.readSegments (segments stream)).endpoint.within rest := by
  by_cases closed : Wire.flag ∈ stream
  · obtain ⟨segment, rest, split, free⟩ := List.eq_append_cons_of_mem closed
    have shorter : rest.length < stream.length := by
      rw [split, List.length_append, List.length_cons]
      omega
    obtain ⟨grown, silent⟩ := receive_within start [] free
    rw [clear.within_nil, List.nil_append] at grown
    rw [clear.within_nil] at silent
    have judged : (start.within segment).feed Wire.flag = start.readSegment segment :=
      close_within clear segment
    have next : (start.readSegment segment).endpoint.Clear := judged ▸ clear_close _
    obtain ⟨signals, last, endpoints⟩ :=
      receive_segments (start.readSegment segment).endpoint next rest
    rw [split, receive_append, Wire.segments_append_cons free]
    simp only [receive, grown, silent, judged, readSegments, signals, List.nil_append]
    exact ⟨trivial, last, endpoints⟩
  · obtain ⟨grown, silent⟩ := receive_within start [] closed
    rw [clear.within_nil, List.nil_append] at grown
    rw [clear.within_nil] at silent
    rw [Wire.segments_of_not_mem closed]
    exact ⟨silent, stream, grown⟩
termination_by stream.length
decreasing_by exact shorter

/-- Pieces of a stream are read as the stream is. -/
theorem run_receive (endpoint : Endpoint) (chunks : List (List UInt8)) :
    let history := chunks.map Operation.receive
    (endpoint.outcomes history).flatMap Outcome.signals =
        (endpoint.receive chunks.flatten).signals ∧
      endpoint.run history = (endpoint.receive chunks.flatten).endpoint := by
  induction chunks generalizing endpoint with
  | nil => exact ⟨rfl, rfl⟩
  | cons chunk later ih =>
    obtain ⟨signals, last⟩ := ih (endpoint.receive chunk).endpoint
    rw [List.flatten_cons, receive_append]
    exact ⟨congrArg ((endpoint.receive chunk).signals ++ ·) signals, last⟩

/-- A flag or a cancel byte ends whatever was in progress. -/
theorem clear_receive_concat (garbage : List UInt8) {mark : UInt8}
    (ends : mark = Wire.flag ∨ mark = Wire.cancel) :
    (endpoint.receive (garbage ++ [mark])).endpoint.Clear := by
  rw [receive_append]
  rcases ends with rfl | rfl
  · exact clear_close _
  · exact ⟨rfl, rfl⟩

/-- In whatever pieces a stream arrives, it is read as if in one; from a clear state
that is to read its closed segments, each as a whole; and after any garbage the first
flag or cancel byte leads to a clear state. -/
theorem chunks_read_by_segments (endpoint : Endpoint) (chunks : List (List UInt8)) :
    let history := chunks.map Operation.receive
    let signals := (endpoint.outcomes history).flatMap Outcome.signals
    let last := endpoint.run history
    let whole := endpoint.readSegments (segments chunks.flatten)
    (signals = (endpoint.receive chunks.flatten).signals ∧
      last = (endpoint.receive chunks.flatten).endpoint) ∧
    (endpoint.Clear → signals = whole.signals ∧ last.sequence = whole.endpoint.sequence ∧
      last.tally = whole.endpoint.tally ∧ last.resendNext = whole.endpoint.resendNext) ∧
    ∀ garbage mark, mark = Wire.flag ∨ mark = Wire.cancel →
      chunks.flatten = garbage ++ [mark] → last.Clear := by
  intro history signals last whole
  obtain ⟨heard, reached⟩ := run_receive endpoint chunks
  refine ⟨⟨heard, reached⟩, ?_, ?_⟩
  · intro clear
    obtain ⟨read, rest, left⟩ := receive_segments endpoint clear chunks.flatten
    have final : last = whole.endpoint.within rest := reached.trans left
    refine ⟨heard.trans read, ?_, ?_, ?_⟩
    all_goals rw [final]; rfl
  · intro garbage mark ends split
    have final : last = (endpoint.receive (garbage ++ [mark])).endpoint := split ▸ reached
    rw [final]
    exact clear_receive_concat garbage ends

/-- Behind a spoilt beginning that is cancelled, an acknowledgement comes through in
three pieces, flow control between its bytes. -/
theorem chunks_read_by_segments_after_cancel :
    let chunks : List (List UInt8) := [[0x18, 0x7D], [0x1A, 0x81, 0x11], [0x60, 0x59, 0x7E]]
    let history := chunks.map Operation.receive
    (outcomes {} history).flatMap Outcome.signals = [.cancelTimer, .ackObserved 1] ∧
      (run {} history).Clear := by
  intro chunks history
  obtain ⟨-, whole, cleared⟩ := chunks_read_by_segments {} chunks
  refine ⟨(whole ⟨rfl, rfl⟩).1.trans (by decide +kernel), ?_⟩
  exact cleared [0x18, 0x7D, 0x1A, 0x81, 0x11, 0x60, 0x59] Wire.flag (.inl rfl) rfl

end Endpoint
end NcpHost
