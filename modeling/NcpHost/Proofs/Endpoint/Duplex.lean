import NcpHost.Endpoint.Duplex
import NcpHost.Proofs.Endpoint.Segment
import NcpHost.Proofs.History

/-! Two endpoints that only build acceptable frames never misread each other.
At every moment the other side's stream splits into the frames that have been
read, the plain bytes in the buffer, which begin the next frame, and the bytes
still on the line. -/
namespace NcpHost

namespace Wire.Frame

theorem stream_append (front back : List Frame) :
    stream (front ++ back) = stream front ++ stream back := List.flatMap_append

theorem payloads_append (front back : List Frame) :
    payloads (front ++ back) = payloads front ++ payloads back := List.filterMap_append

theorem ackNumbers_append (front back : List Frame) :
    ackNumbers (front ++ back) = ackNumbers front ++ ackNumbers back := List.filterMap_append

/-- Frames count as arrived until the bytes end within one. -/
theorem arrived_append (count : Nat) (read unread : List Frame) :
    arrived ((stream read).length + count) (read ++ unread) = read ++ arrived count unread := by
  induction read with
  | nil => simp [stream]
  | cons frame later ih =>
    have whole : frame.wire.length ≤ (stream (frame :: later)).length + count := by
      simp only [stream, List.flatMap_cons, List.length_append]
      omega
    have rest : (stream (frame :: later)).length + count - frame.wire.length =
        (stream later).length + count := by
      simp only [stream, List.flatMap_cons, List.length_append]
      omega
    rw [List.cons_append, arrived, if_pos whole, rest, ih, List.cons_append]

end Wire.Frame

namespace Duplex
open Wire (Frame)

/-- The next frame that a side may build: DATA frames are numbered in order, and
numbers and payload fit the frame. -/
def Next (built : List Frame) : Frame → Prop
  | .data number acked _ payload =>
    number.toNat = (Frame.payloads built).length % 8 ∧ acked < Wire.Control.modulus ∧
      payload.length ≤ maxPayload
  | .ack number => number < Wire.Control.modulus
  | .nak _ | .reset | .resetAck _ => False

/-- `party` has read the frames `read` and the beginning of `unread`. -/
structure Reading (read unread : List Frame) (party : Party) : Prop where
  stream : party.endpoint.buffer ++ party.incoming = Frame.stream unread
  taken : party.taken = (Frame.stream read).length + party.endpoint.buffer.length
  partway : Wire.flag ∉ party.endpoint.buffer
  clean : party.endpoint.corrupt = false
  payloads : party.signals.filterMap Signal.payload? = Frame.payloads read
  acks : party.signals.filterMap Signal.ackNumber? = Frame.ackNumbers read
  faultless : party.endpoint.tally.checksumErrors = 0 ∧
    party.endpoint.tally.framingErrors = 0 ∧ party.endpoint.tally.rejected = 0
  number : party.endpoint.sequence.ackToSend.toNat = (Frame.payloads read).length % 8

theorem Next.fits {built : List Frame} {frame : Frame} (next : Next built frame) :
    frame.Fits := by
  cases frame with
  | data number acked resend payload =>
    refine ⟨?_, next.2.1⟩
    rw [UInt8.lt_iff_toNat_lt, next.1]
    exact Nat.mod_lt _ (by decide)
  | ack number => exact next
  | nak | reset | resetAck => exact next.elim

theorem Next.wire {built : List Frame} {frame : Frame} (next : Next built frame) :
    frame.wire = Wire.stuff (Wire.Crc.append frame.body) ++ [Wire.flag] := by
  cases frame with
  | data | ack => rfl
  | nak | reset | resetAck => exact next.elim

theorem Next.room {built : List Frame} {frame : Frame} (next : Next built frame) :
    (Wire.stuff (Wire.Crc.append frame.body)).length ≤ maxStuffed := by
  cases frame with
  | data number acked resend payload =>
    exact Endpoint.length_stuff_data_le next.2.2 number acked resend
  | ack number =>
    have doubled := Wire.length_stuff_le (Wire.Crc.append (Frame.ack number).body)
    rw [Wire.Crc.length_append] at doubled
    exact Nat.le_trans doubled (by simp [Frame.body, maxStuffed, maxPayload])
  | nak | reset | resetAck => exact next.elim

namespace Reading

variable {read unread : List Frame} {party : Party}

/-- Fewer bytes wait in the buffer than the next frame has, so no more frames
have arrived than were read. -/
theorem arrived (reading : Reading read unread party) :
    Frame.arrived party.taken (read ++ unread) = read := by
  rw [reading.taken, Frame.arrived_append]
  cases unread with
  | nil => simp [Frame.arrived]
  | cons frame later =>
    have short : ¬ frame.wire.length ≤ party.endpoint.buffer.length := by
      intro long
      have front : frame.wire = party.endpoint.buffer.take frame.wire.length := by
        have same := congrArg (List.take frame.wire.length) reading.stream
        rw [List.take_append_of_le_length long] at same
        simpa [Frame.stream] using same.symm
      have closing : Wire.flag ∈ frame.wire := by simp [Frame.wire_eq]
      rw [front] at closing
      exact reading.partway (List.mem_of_mem_take closing)
    rw [Frame.arrived, if_neg short, List.append_nil]

/-- Bytes that the other side puts on the line do not disturb what was read. -/
theorem extend (reading : Reading read unread party) (frame : Frame) :
    Reading read (unread ++ [frame])
      { party with incoming := party.incoming ++ frame.wire } :=
  { reading with
    stream := by
      rw [Frame.stream_append, ← reading.stream]
      simp [Frame.stream] }

/-- A frame that may follow is accepted without a fault: its payload or number is
signalled, and nothing but the acknowledgement to send depends on it. -/
theorem accept (endpoint : Endpoint) {frame : Frame} (next : Next read frame)
    (number : endpoint.sequence.ackToSend.toNat = (Frame.payloads read).length % 8) :
    (endpoint.accept frame).signals.filterMap Signal.payload? = Frame.payloads [frame] ∧
      (endpoint.accept frame).signals.filterMap Signal.ackNumber? = Frame.ackNumbers [frame] ∧
      (endpoint.accept frame).endpoint.sequence.ackToSend.toNat =
        (Frame.payloads (read ++ [frame])).length % 8 := by
  rw [Frame.payloads_append, List.length_append]
  cases frame with
  | data sent acked resend payload =>
    have following : ((sent + 1) % Wire.Control.modulus).toNat =
        ((Frame.payloads read).length + 1) % 8 := by
      have modulus : Wire.Control.modulus.toNat = 8 := rfl
      rw [UInt8.toNat_mod, UInt8.toNat_add, next.1, UInt8.toNat_one, modulus]
      omega
    by_cases expected : acked = endpoint.sequence.expectedAck <;>
      simp [Endpoint.accept, expected, following, Frame.payloads, Frame.ackNumbers,
        List.filterMap_cons, Signal.payload?, Signal.ackNumber?, Frame.payload?,
        Frame.ackNumber?]
  | ack =>
    simp [Endpoint.accept, number, Frame.payloads, Frame.ackNumbers, List.filterMap_cons,
      Signal.payload?, Signal.ackNumber?, Frame.payload?, Frame.ackNumber?]
  | nak | reset | resetAck => exact next.elim

theorem accept_keeps (endpoint : Endpoint) {frame : Frame} (next : Next read frame) :
    (endpoint.accept frame).endpoint.buffer = endpoint.buffer ∧
      (endpoint.accept frame).endpoint.corrupt = endpoint.corrupt ∧
      (endpoint.accept frame).endpoint.tally.checksumErrors = endpoint.tally.checksumErrors ∧
      (endpoint.accept frame).endpoint.tally.framingErrors = endpoint.tally.framingErrors ∧
      (endpoint.accept frame).endpoint.tally.rejected = endpoint.tally.rejected ∧
      (endpoint.accept frame).endpoint.sequence.nextFrame = endpoint.sequence.nextFrame := by
  cases frame with
  | data number acked resend payload =>
    by_cases expected : acked = endpoint.sequence.expectedAck <;>
      simp [Endpoint.accept, expected]
  | ack => simp [Endpoint.accept]
  | nak | reset | resetAck => exact next.elim

/-- The flag completes the frame in the buffer. -/
theorem close {frame : Frame} {later : List Frame} {rest : List UInt8}
    (reading : Reading read (frame :: later) party) (next : Next read frame)
    (line : party.incoming = Wire.flag :: rest) :
    Reading (read ++ [frame]) later (party.take [Wire.flag] rest) ∧
      (party.take [Wire.flag] rest).endpoint.sequence.nextFrame =
        party.endpoint.sequence.nextFrame := by
  have split : party.endpoint.buffer ++ Wire.flag :: rest =
      Wire.stuff (Wire.Crc.append frame.body) ++ Wire.flag :: Frame.stream later := by
    simpa [line, Frame.stream, next.wire] using reading.stream
  obtain ⟨whole, tail⟩ := Wire.segment_unique reading.partway
    (Wire.flag_not_mem_stuff (Wire.Crc.append frame.body)) split
  have fed : party.endpoint.feed Wire.flag =
      { party.endpoint with buffer := [], corrupt := false }.accept frame :=
    Endpoint.close_body next.fits reading.clean whole
  obtain ⟨payloads, acks, number⟩ :=
    accept { party.endpoint with buffer := [], corrupt := false } next reading.number
  obtain ⟨buffer, corrupt, checksums, framing, rejected, kept⟩ :=
    accept_keeps { party.endpoint with buffer := [], corrupt := false } next
  rw [← fed] at payloads acks number buffer corrupt checksums framing rejected kept
  have received : party.endpoint.receive [Wire.flag] =
      party.endpoint.feed Wire.flag := by simp [Endpoint.receive]
  refine ⟨?_, by simp [Party.take, received, kept]⟩
  constructor
  · simp [Party.take, received, buffer, tail]
  · simp [Party.take, received, buffer, reading.taken, whole, Frame.stream, next.wire]
    omega
  · simp [Party.take, received, buffer]
  · simp [Party.take, received, corrupt]
  · simp [Party.take, received, payloads, reading.payloads, Frame.payloads_append]
  · simp [Party.take, received, acks, reading.acks, Frame.ackNumbers_append]
  · simp [Party.take, received, checksums, framing, rejected, reading.faultless]
  · simp [Party.take, received, number]

/-- Any other byte joins the buffer, which still begins the next frame. -/
theorem collect {frame : Frame} {later : List Frame} {byte : UInt8} {rest : List UInt8}
    (reading : Reading read (frame :: later) party) (next : Next read frame)
    (line : party.incoming = byte :: rest) (within : byte ≠ Wire.flag) :
    Reading read (frame :: later) (party.take [byte] rest) ∧
      (party.take [byte] rest).endpoint.sequence.nextFrame =
        party.endpoint.sequence.nextFrame := by
  have split : (party.endpoint.buffer ++ [byte]) ++ rest =
      Wire.stuff (Wire.Crc.append frame.body) ++ Wire.flag :: Frame.stream later := by
    simpa [line, Frame.stream, next.wire] using reading.stream
  have partway : Wire.flag ∉ party.endpoint.buffer ++ [byte] := by
    simpa [reading.partway] using within.symm
  obtain ⟨missing, front⟩ : ∃ missing,
      Wire.stuff (Wire.Crc.append frame.body) = party.endpoint.buffer ++ [byte] ++ missing := by
    rcases List.append_eq_append_iff.mp split with ⟨missing, front, _⟩ | ⟨extra, front, tail⟩
    · exact ⟨missing, front⟩
    · cases extra with
      | nil => exact ⟨[], by simpa using front.symm⟩
      | cons first extra =>
        obtain ⟨rfl, -⟩ := List.cons.inj tail
        exact absurd (front ▸ by simp) partway
  have plain : Wire.Plain byte := by
    apply Wire.plain_stuff (Wire.Crc.append frame.body)
    rw [front]
    simp
  have room : party.endpoint.buffer.length < maxStuffed := by
    have fits := next.room
    rw [front] at fits
    simp only [List.length_append, List.length_singleton] at fits
    omega
  have received : party.endpoint.receive [byte] =
      { endpoint := { party.endpoint with buffer := party.endpoint.buffer ++ [byte] } } := by
    simp [Endpoint.receive, Endpoint.feed_plain plain room]
  refine ⟨?_, by simp [Party.take, received]⟩
  constructor
  · simpa [Party.take, received, line] using reading.stream
  · simp [Party.take, received, reading.taken]
    omega
  · simpa [Party.take, received] using partway
  · simp [Party.take, received, reading.clean]
  · simp [Party.take, received, reading.payloads]
  · simp [Party.take, received, reading.acks]
  · simp [Party.take, received, reading.faultless]
  · simp [Party.take, received, reading.number]

theorem ackToSend_lt (reading : Reading read unread party) :
    party.endpoint.sequence.ackToSend < Wire.Control.modulus := by
  rw [UInt8.lt_iff_toNat_lt, reading.number]
  exact Nat.mod_lt _ (by decide)

theorem take_byte {byte : UInt8} {rest : List UInt8} (reading : Reading read unread party)
    (lawful : Lawful Next (read ++ unread)) (line : party.incoming = byte :: rest) :
    ∃ read' unread', read' ++ unread' = read ++ unread ∧
      Reading read' unread' (party.take [byte] rest) ∧
      (party.take [byte] rest).endpoint.sequence.nextFrame =
        party.endpoint.sequence.nextFrame := by
  cases unread with
  | nil =>
    have empty := reading.stream
    simp [line, Frame.stream] at empty
  | cons frame later =>
    have next : Next read frame := lawful read frame later rfl
    by_cases closing : byte = Wire.flag
    · subst closing
      exact ⟨read ++ [frame], later, by simp, reading.close next line⟩
    · exact ⟨read, frame :: later, rfl, reading.collect next line closing⟩

/-- Pieces of any size leave the same picture. -/
theorem take {chunk rest : List UInt8} (reading : Reading read unread party)
    (lawful : Lawful Next (read ++ unread)) (line : party.incoming = chunk ++ rest) :
    ∃ read' unread', read' ++ unread' = read ++ unread ∧
      Reading read' unread' (party.take chunk rest) ∧
      (party.take chunk rest).endpoint.sequence.nextFrame =
        party.endpoint.sequence.nextFrame := by
  induction chunk generalizing party read unread with
  | nil =>
    have same : party.take [] rest = party := by
      cases party
      simp_all [Party.take]
    exact ⟨read, unread, rfl, by rwa [same], by rw [same]⟩
  | cons byte chunk ih =>
    obtain ⟨front, back, split, first, kept⟩ := reading.take_byte lawful line
    obtain ⟨read', unread', whole, later, number⟩ :=
      ih first (split ▸ lawful) rfl
    have steps : party.take (byte :: chunk) rest =
        (party.take [byte] (chunk ++ rest)).take chunk rest := by
      simp only [Party.take, Endpoint.receive, List.append_nil, List.append_assoc,
        List.length_cons, List.length_nil]
      congr 1
      omega
    rw [steps]
    exact ⟨read', unread', whole.trans split, later, number.trans kept⟩

/-- Building a frame concerns nothing that reading depends on. -/
theorem put {built : Frame × Endpoint} (reading : Reading read unread party)
    (buffer : built.2.buffer = party.endpoint.buffer)
    (corrupt : built.2.corrupt = party.endpoint.corrupt)
    (ackToSend : built.2.sequence.ackToSend = party.endpoint.sequence.ackToSend)
    (faults : built.2.tally.checksumErrors = party.endpoint.tally.checksumErrors ∧
      built.2.tally.framingErrors = party.endpoint.tally.framingErrors ∧
      built.2.tally.rejected = party.endpoint.tally.rejected) :
    Reading read unread (party.put built) := by
  constructor
  · simpa [Party.put, buffer] using reading.stream
  · simpa [Party.put, buffer] using reading.taken
  · simpa [Party.put, buffer] using reading.partway
  · simpa [Party.put, corrupt] using reading.clean
  · simpa [Party.put] using reading.payloads
  · simpa [Party.put] using reading.acks
  · simpa [Party.put, faults] using reading.faultless
  · simpa [Party.put, ackToSend] using reading.number

end Reading

@[simp] theorem other_other (side : Side) : side.other.other = side := by cases side <;> rfl

@[simp] theorem other_ne (side : Side) : side.other ≠ side := by cases side <;> decide

@[simp] theorem ne_other (side : Side) : side ≠ side.other := by cases side <;> decide

theorem eq_other_of_ne {each side : Side} (different : each ≠ side) : each = side.other := by
  cases each <;> cases side <;> first | rfl | exact absurd rfl different

/-- Both sides build lawfully, and each reads what the other built. -/
structure Sound (duplex : Duplex) : Prop where
  lawful : ∀ side, Lawful Next (duplex side).built
  number : ∀ side, (duplex side).endpoint.sequence.nextFrame.toNat =
    (Frame.payloads (duplex side).built).length % 8
  reading : ∀ side, ∃ read unread, read ++ unread = (duplex side.other).built ∧
    Reading read unread (duplex side)

theorem sound_start : Sound start where
  lawful _ := Lawful.nil
  number _ := rfl
  reading _ := ⟨[], [], rfl, ⟨rfl, rfl, List.not_mem_nil, rfl, rfl, rfl, ⟨rfl, rfl, rfl⟩, rfl⟩⟩

namespace Sound

variable {duplex : Duplex}

theorem ackToSend_lt (sound : Sound duplex) (side : Side) :
    (duplex side).endpoint.sequence.ackToSend < Wire.Control.modulus := by
  obtain ⟨_, _, _, reading⟩ := sound.reading side
  exact reading.ackToSend_lt

theorem send {side : Side} {built : Frame × Endpoint} (sound : Sound duplex)
    (next : Next (duplex side).built built.1)
    (number : built.2.sequence.nextFrame.toNat =
      (Frame.payloads ((duplex side).built ++ [built.1])).length % 8)
    (kept : ∀ read unread, Reading read unread (duplex side) →
      Reading read unread ((duplex side).put built)) : Sound (duplex.send side built) where
  lawful each := by
    by_cases self : each = side
    · subst self
      simpa [Duplex.send, Party.put] using Lawful.concat_iff.mpr ⟨sound.lawful each, next⟩
    · simpa [Duplex.send, self] using sound.lawful each
  number each := by
    by_cases self : each = side
    · subst self
      simpa [Duplex.send, Party.put] using number
    · simpa [Duplex.send, self] using sound.number each
  reading each := by
    obtain ⟨read, unread, split, reading⟩ := sound.reading each
    by_cases self : each = side
    · subst self
      refine ⟨read, unread, ?_, ?_⟩
      · simpa [Duplex.send] using split
      · simpa [Duplex.send] using kept read unread reading
    · obtain rfl := eq_other_of_ne self
      refine ⟨read, unread ++ [built.1], ?_, ?_⟩
      · simp only [other_other] at split
        simp [Duplex.send, Party.put, ← split]
      · simpa [Duplex.send] using reading.extend built.1

theorem act (sound : Sound duplex) (side : Side) (action : Action) :
    Sound (duplex.act side action) := by
  cases action with
  | data payload =>
    refine sound.send ⟨sound.number side, sound.ackToSend_lt side, payload.2⟩ ?_ ?_
    · have modulus : Wire.Control.modulus.toNat = 8 := rfl
      simp only [Endpoint.data, Frame.payloads_append, List.length_append]
      rw [UInt8.toNat_mod, UInt8.toNat_add, sound.number side, UInt8.toNat_one, modulus]
      simp only [Frame.payloads, List.filterMap_cons, Frame.payload?, List.filterMap_nil,
        List.length_singleton]
      omega
    · intro read unread reading
      exact reading.put rfl rfl rfl ⟨rfl, rfl, rfl⟩
  | ack =>
    refine sound.send (sound.ackToSend_lt side) ?_ ?_
    · simpa [Endpoint.ack, Frame.payloads, Frame.payload?, List.filterMap_cons] using
        sound.number side
    · intro read unread reading
      exact reading.put rfl rfl rfl ⟨rfl, rfl, rfl⟩
  | take count =>
    obtain ⟨read, unread, split, reading⟩ := sound.reading side
    obtain ⟨read', unread', whole, later, kept⟩ :=
      reading.take (split ▸ sound.lawful side.other)
        (List.take_append_drop count (duplex side).incoming).symm
    simp only [Party.take] at kept
    constructor
    · intro each
      by_cases self : each = side
      · subst self
        simpa [Duplex.act, Party.take] using sound.lawful each
      · simpa [Duplex.act, self] using sound.lawful each
    · intro each
      by_cases self : each = side
      · subst self
        simpa [Duplex.act, kept, Party.take] using sound.number each
      · simpa [Duplex.act, self] using sound.number each
    · intro each
      by_cases self : each = side
      · subst self
        refine ⟨read', unread', ?_, ?_⟩
        · simpa [Duplex.act, Party.take] using whole.trans split
        · simpa [Duplex.act] using later
      · obtain rfl := eq_other_of_ne self
        obtain ⟨mine, theirs, other, elsewhere⟩ := sound.reading side.other
        refine ⟨mine, theirs, ?_, ?_⟩
        · simpa [Duplex.act, Party.take] using other
        · simpa [Duplex.act] using elsewhere

theorem run (history : List (Side × Action)) : Sound (run history) := by
  suffices onwards : ∀ duplex, Sound duplex →
      Sound (history.foldl (fun state step => state.act step.1 step.2) duplex) from
    onwards start sound_start
  intro duplex sound
  induction history generalizing duplex with
  | nil => exact sound
  | cons step later ih => exact ih _ (sound.act step.1 step.2)

end Sound

theorem payloads_act (duplex : Duplex) (side doer : Side) (action : Action) :
    Frame.payloads (duplex.act doer action side).built =
      Frame.payloads (duplex side).built ++ (action.payloadOf? side doer).toList := by
  cases action with
  | data payload =>
    by_cases self : side = doer
    · subst self
      simp [act, send, Party.put, Action.payloadOf?, Endpoint.data, Frame.payloads,
        Frame.payload?]
    · simp [act, send, Action.payloadOf?, self, Ne.symm self]
  | ack =>
    by_cases self : side = doer
    · subst self
      simp [act, send, Party.put, Action.payloadOf?, Endpoint.ack, Frame.payloads,
        Frame.payload?, List.filterMap_cons]
    · simp [act, send, Action.payloadOf?, self]
  | take count =>
    by_cases self : side = doer <;> simp [act, self, Party.take, Action.payloadOf?]

/-- A side's DATA frames carry what it was given to send. -/
theorem payloads_run (history : List (Side × Action)) (side : Side) :
    Frame.payloads (run history side).built =
      history.filterMap fun step => step.2.payloadOf? side step.1 := by
  suffices onwards : ∀ duplex : Duplex,
      Frame.payloads (history.foldl (fun state step => state.act step.1 step.2) duplex side).built =
        Frame.payloads (duplex side).built ++
          history.filterMap fun step => step.2.payloadOf? side step.1 from
    onwards start
  intro duplex
  induction history generalizing duplex with
  | nil => simp
  | cons step later ih =>
    rw [List.foldl_cons, ih, payloads_act, List.append_assoc, List.filterMap_cons]
    cases step.2.payloadOf? side step.1 <;> rfl

/-- Whatever both sides build, and in whatever pieces bytes are taken: a side has
signalled the payloads and the acknowledgement numbers of exactly the frames whose
last byte it has taken, in order and each once; it has found no fault; and both
its numbers count DATA frames modulo eight. -/
theorem signals_match_arrivals (history : List (Side × Action)) (side : Side) :
    let self := run history side
    let peer := run history side.other
    let arrived := Frame.arrived self.taken peer.built
    self.incoming = (Frame.stream peer.built).drop self.taken ∧
      Frame.payloads peer.built =
        (history.filterMap fun step => step.2.payloadOf? side.other step.1) ∧
      self.signals.filterMap Signal.payload? = Frame.payloads arrived ∧
      self.signals.filterMap Signal.ackNumber? = Frame.ackNumbers arrived ∧
      self.endpoint.tally.checksumErrors = 0 ∧
      self.endpoint.tally.framingErrors = 0 ∧
      self.endpoint.tally.rejected = 0 ∧
      self.endpoint.sequence.ackToSend.toNat = (Frame.payloads arrived).length % 8 ∧
      self.endpoint.sequence.nextFrame.toNat = (Frame.payloads self.built).length % 8 := by
  have sound := Sound.run history
  obtain ⟨read, unread, split, reading⟩ := sound.reading side
  have arrived : Frame.arrived (run history side).taken (run history side.other).built = read := by
    rw [← split, reading.arrived]
  have waiting : (run history side).incoming =
      (Frame.stream (run history side.other).built).drop (run history side).taken := by
    rw [← split, Frame.stream_append, ← reading.stream, reading.taken, ← List.drop_drop,
      List.drop_left, List.drop_left]
  obtain ⟨checksums, framing, rejected⟩ := reading.faultless
  simp only [arrived]
  exact ⟨waiting, payloads_run history side.other, reading.payloads, reading.acks, checksums,
    framing, rejected, reading.number, sound.number side⟩

end Duplex
end NcpHost
