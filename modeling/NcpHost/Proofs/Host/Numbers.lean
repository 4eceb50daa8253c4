import NcpHost.Proofs.Endpoint.Numbers
import NcpHost.Proofs.History
import NcpHost.Proofs.Host.Calm
import NcpHost.Proofs.Host.Errand
import NcpHost.Proofs.Host.Reading

/-! The numbers of the DATA frames that go out while bytes are handled. A NAK sets the number
of the next frame when it is read, and the answer to it goes out when it is handled, by when
all of the bytes have been read. So what goes out is numbered from the last of the NAKs on,
one after the other, and is the frame that a NAK asks for if that is the last one and nothing
went out before. -/
namespace NcpHost

namespace Journal

/-- DATA frames handed to the port. -/
def dataSent (journal : List Effect) : Nat :=
  journal.countP fun entry => entry.dataNumber?.isSome

/-- DATA frames are numbered one after the other, from `first` on. -/
def NumberedFrom (first : Nat) (before : List Effect) (entry : Effect) : Prop :=
  ∀ number, entry.dataNumber? = some number → number.toNat = (first + dataSent before) % 8

theorem dataSent_append (front back : List Effect) :
    dataSent (front ++ back) = dataSent front + dataSent back := List.countP_append

end Journal

namespace Journal

variable {added : List Effect}

theorem dataSent_eq_zero (each : ∀ entry ∈ added, entry.dataNumber? = none) :
    dataSent added = 0 := by
  apply List.countP_eq_zero.mpr
  intro entry member
  simp [each entry member]

theorem numberedFrom_of_none (first : Nat) (each : ∀ entry ∈ added, entry.dataNumber? = none) :
    Lawful (NumberedFrom first) added := by
  rintro before entry after rfl number taken
  rw [each entry (by simp)] at taken
  cases taken

end Journal

namespace Host

variable {host host' last : Host}

/-- The number of the next DATA frame. -/
def nextNumber (host : Host) : Nat := host.link.endpoint.sequence.nextFrame.toNat

/-- What goes out on the way from one host to the other is numbered on. -/
def NumbersOn (host host' : Host) : Prop :=
  host.nextNumber < 8 → ∃ added, host'.world.journal = host.world.journal ++ added ∧
    Lawful (Journal.NumberedFrom host.nextNumber) added ∧
    host'.nextNumber = (host.nextNumber + Journal.dataSent added) % 8

namespace NumbersOn

theorem still (same : host'.nextNumber = host.nextNumber)
    (adds : Unnumbered host.world host'.world) : NumbersOn host host' := by
  intro small
  obtain ⟨added, journal, each⟩ := adds
  refine ⟨added, journal, Journal.numberedFrom_of_none _ each, ?_⟩
  rw [same, Journal.dataSent_eq_zero each]
  exact (Nat.mod_eq_of_lt small).symm

theorem refl (host : Host) : NumbersOn host host := still rfl (.refl _)

theorem trans (first : NumbersOn host host') (second : NumbersOn host' last) :
    NumbersOn host last := by
  intro small
  obtain ⟨front, journal, early, next⟩ := first small
  have small' : host'.nextNumber < 8 := by
    rw [next]
    exact Nat.mod_lt _ (by decide)
  obtain ⟨back, journal', late, next'⟩ := second small'
  refine ⟨front ++ back, ?_, ?_, ?_⟩
  · rw [journal', journal, List.append_assoc]
  · refine early.join fun before entry after split number taken => ?_
    have follows := late before entry after split number taken
    rw [follows, next, Journal.dataSent_append]
    omega
  · rw [next', next, Journal.dataSent_append]
    omega

/-- A command that goes out takes the next number. -/
theorem sendNext_idle (host : Host) :
    NumbersOn host { host with waiting := false }.sendNext.2 := by
  rcases host.sendNext_idle_cases with ⟨command, later, can, oldest⟩ | ⟨-, same⟩
  · rw [sendNext_of_can host can oldest]
    generalize Ezsp.Frame.encode _ command.id command.parameters = payload
    intro small
    let told := (Endpoint.oversized payload).map Effect.noted
    have each : ∀ entry ∈ told, entry.dataNumber? = none := by
      intro entry member
      obtain ⟨note, -, rfl⟩ := List.mem_map.mp member
      rfl
    have silent := Journal.dataSent_eq_zero each
    refine ⟨told ++ [.sent (.frame (host.link.endpoint.data payload).1) _],
      (host.link.send_journal host.world payload).trans (List.append_assoc _ _ _), ?_, ?_⟩
    · refine Lawful.concat_iff.mpr ⟨Journal.numberedFrom_of_none _ each, ?_⟩
      intro number taken
      cases taken
      rw [silent]
      exact (Nat.mod_eq_of_lt small).symm
    · rw [Journal.dataSent_append, silent, nextNumber, Link.send_eq]
      exact toNat_following _
  · rw [same]
    exact still rfl (.refl _)

theorem errand {host host' : Host} (errand : Errand host host') : NumbersOn host host' := by
  cases errand with
  | note | ready => exact still rfl ((World.Adds.refl _).record (by rfl))
  | launched => exact still rfl (.refl _)
  | send => exact sendNext_idle host
  | mode mode =>
    refine still ?_ (adds_setMode host mode fun _ _ => rfl)
    rw [setMode_eq]
    rfl
  | enter goal =>
    refine still ?_ (quiet_enterBootloader host goal).unnumbered
    rw [enterBootloader_shape]
    rfl

/-- What is told of frames is answered with frames that are numbered on. -/
theorem foldl_told {up : Bool} {frames : List Wire.Frame} (events : List LinkEvent)
    (told : ∀ event ∈ events, event ∈ Wire.Frame.told up frames) (host : Host) :
    NumbersOn host (events.foldl handleLinkEvent host) := by
  refine relate_foldl_told refl trans errand (fun host => ?_) (fun host frame => ?_)
    (fun host response command later => ?_) events told host
  · exact still rfl (host.link.adds_acknowledge host.world fun _ _ => rfl)
  · exact still rfl ((World.Adds.refl _).record (by rfl))
  · exact still rfl (((World.Adds.refl _).record (by rfl)).record (by rfl))

end NumbersOn

/-! Between two operations the next number is less than eight. -/

theorem Move.nextNumber_lt {hearer : Option Engine} (move : Move hearer host host')
    (small : host.nextNumber < 8) : host'.nextNumber < 8 := by
  cases move with
  | remark | force | port | fireLink | fireConsole | launch | launched | settle | enqueue | hold |
    answer | acknowledge | readConsole | pollConsole | choose | handBack | take | close =>
    exact small
  | mode mode =>
    rw [setMode_eq]
    exact small
  | send command later can oldest =>
    rw [sendNext_of_can host can oldest, nextNumber, Link.send_eq]
    exact following_lt _
  | read bytes active =>
    rw [nextNumber, Link.receive_endpoint]
    exact host.link.endpoint.nextFrame_receive_lt bytes small
  | pollLink =>
    have same := Link.poll_endpoint host.link host.world
    rw [nextNumber, same]
    exact small
  | rewind inFlight =>
    rw [nextNumber, Link.prepareResend, Endpoint.rewind, UInt8.toNat_mod]
    exact Nat.mod_lt _ (by decide)
  | reset opened active =>
    rw [sendReset, if_pos opened, nextNumber, Link.reset_eq]
    exact Nat.succ_pos 7
  | enter goal =>
    rw [enterBootloader_shape]
    exact small

theorem nextNumber_run (settings : Settings) (port : Port) (now : Nat)
    (history : List Operation) :
    ((ofSettings settings { port, now }).run history).nextNumber < 8 := by
  have start : (ofSettings settings { port, now }).nextNumber < 8 := Nat.succ_pos 7
  obtain ⟨-, holds⟩ := run_of_moves (P := fun _ host => host.nextNumber < 8)
    (fun _ _ _ move before => move.nextNumber_lt before) (fun _ _ _ before => before)
    none start history
  exact holds

theorem unnumbered_read (host : Host) (bytes : List UInt8) :
    Unnumbered host.world (host.read bytes).world :=
  World.Adds.trans ((World.Adds.refl _).record rfl)
    (adds_read host bytes (fun _ _ => rfl) rfl)

/-- The frames that go out on account of bytes are numbered on from what the bytes have set. -/
theorem numbered_receive (host : Host) (bytes : List UInt8) (small : host.nextNumber < 8) :
    ∃ added, (host.receive bytes).world.journal = host.world.journal ++ added ∧
      Lawful (Journal.NumberedFrom
        (((host.link.endpoint.frames bytes).filterMap Wire.Frame.nakNumber?).getLast?.getD
          host.link.endpoint.sequence.nextFrame).toNat) added := by
  obtain ⟨heard, journal, silent⟩ := unnumbered_read host bytes
  cases active : host.active with
  | link =>
    have set := host.link.endpoint.nextFrame_receive bytes
    have small' := host.link.endpoint.nextFrame_receive_lt bytes small
    rw [← endpoint_read active] at set small'
    obtain ⟨answered, later, numbered, -⟩ :=
      NumbersOn.foldl_told _ (fun _ told => told) (host.read bytes) small'
    rw [← receive_link active] at later
    refine ⟨heard ++ answered, by rw [later, journal, List.append_assoc], ?_⟩
    refine (Journal.numberedFrom_of_none _ silent).join
      fun before entry after split number taken => ?_
    rw [numbered before entry after split number taken, Journal.dataSent_append,
      Journal.dataSent_eq_zero silent, nextNumber, set, Nat.zero_add]
  | console =>
    obtain ⟨answered, later, each⟩ := (Calm.foldl_handleConsoleEvent
      (host.console.receive host.world.now bytes).events (host.read bytes)).adds
    rw [← receive_console active] at later
    refine ⟨heard ++ answered, by rw [later, journal, List.append_assoc], ?_⟩
    exact Journal.numberedFrom_of_none _ fun entry member =>
      (List.mem_append.mp member).elim (silent entry) (each entry)

/-- However bytes are cut into frames, the DATA frames that go out while they are handled are
numbered one after the other, from the last NAK among them on or, if there is none, from where
the numbers stood. So the answer to the NAK that comes last carries the number it asks for just
if no DATA frame, or eight times as many, has gone out on account of the bytes before; the
answer to an earlier one goes by the last all the same. -/
theorem resends_numbered_on (settings : Settings) (port : Port) (now : Nat)
    (history : List Operation) (bytes : List UInt8) :
    let host := (ofSettings settings { port, now }).run history
    let naks := (host.link.endpoint.frames bytes).filterMap Wire.Frame.nakNumber?
    let first := naks.getLast?.getD host.link.endpoint.sequence.nextFrame
    ∃ added, (host.receive bytes).world.journal = host.world.journal ++ added ∧
      (∀ before entry after number, added = before ++ entry :: after →
        entry.dataNumber? = some number →
          number.toNat = (first.toNat + Journal.dataSent before) % 8) ∧
      ∀ early asked told entry after number,
        added = early ++ .noted (.nakReceived asked) :: (told ++ entry :: after) →
        (∀ other ∈ told, ∃ length limit, other = .noted (.oversizedPayload length limit)) →
        entry.dataNumber? = some number → naks.getLast? = some asked →
        (number = asked ↔ Journal.dataSent early % 8 = 0) := by
  intro host naks first
  obtain ⟨added, journal, numbered⟩ :=
    numbered_receive host bytes (nextNumber_run settings port now history)
  refine ⟨added, journal, ?_, ?_⟩
  · exact fun before entry after number split => numbered before entry after split number
  · intro early asked told entry after number split only taken asks
    have silent : Journal.dataSent told = 0 := by
      apply Journal.dataSent_eq_zero
      intro other member
      obtain ⟨length, limit, rfl⟩ := only other member
      rfl
    have small : asked.toNat < 8 := Endpoint.nakNumber_lt (List.mem_of_getLast? asks)
    have before : Journal.dataSent (early ++ .noted (.nakReceived asked) :: told) =
        Journal.dataSent early := by
      rw [Journal.dataSent_append]
      exact congrArg (Journal.dataSent early + ·) silent
    have follows := numbered (early ++ .noted (.nakReceived asked) :: told) entry after
      (by simp [split]) number taken
    rw [before, asks, Option.getD_some] at follows
    rw [← UInt8.toNat_inj, follows]
    omega

/-- Two NAKs in one piece ask for the same number. The second answer goes out under the number
after it. -/
theorem resend_past_its_number :
    ¬ ∀ (history : List Operation) (bytes : List UInt8) (early : List Effect) (asked : UInt8)
        (entry : Effect) (after : List Effect) (number : UInt8),
      let host := (ofSettings {} { port := { name := "line" } }).run history
      (host.receive bytes).world.journal = host.world.journal ++
          (early ++ .noted (.nakReceived asked) :: entry :: after) →
        entry.dataNumber? = some number → number = asked := by
  intro always
  let history : List Operation := [.openPort, .receive (Wire.Frame.resetAck .powerOn).wire,
    .submit 5 []]
  let bytes := (Wire.Frame.nak 0).wire ++ (Wire.Frame.nak 0).wire
  let command := Ezsp.Frame.encode 0 5 []
  let answer number : Effect := .sent (.frame (.data number 0 false command)) (.accepted 9)
  let early : List Effect :=
    [.received bytes, .waitEnded, .waitEnded, .noted (.nakReceived 0), answer 0]
  have same : (1 : UInt8) = 0 := by
    refine always history bytes early 0 (answer 1) [] 1 ?_ rfl
    decide +kernel
  exact absurd same (by decide)

end Host
end NcpHost
