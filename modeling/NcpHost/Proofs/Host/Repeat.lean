import NcpHost.Proofs.Host.Answer
import NcpHost.Proofs.Host.Numbers

/-! Retransmissions. Stepping back one frame number repeats the last DATA frame only if no
other number has been set since that frame was built. A NAK sets one, and until the host is
told of it the frame in flight cannot be repeated; being told of it, the host sends at once,
or has nothing in flight any more. So between two operations the frame in flight is always
the last one, and the number one less than the next. -/
namespace NcpHost

namespace Effect

/-- Number and content of a DATA frame handed to the port. -/
def data? : Effect → Option (UInt8 × List UInt8)
  | .sent (.frame (.data number _ _ payload)) _ => some (number, payload)
  | _ => none

/-- A DATA frame handed to the port that says it is a repetition. -/
def IsResend : Effect → Prop
  | .sent (.frame (.data _ _ resend _)) _ => resend = true
  | _ => False

variable {effect : Effect} (apart : effect.dataNumber? = none)
include apart

theorem data?_eq_none : effect.data? = none := by
  unfold data?
  split
  · cases apart
  · rfl

theorem not_isResend : ¬ effect.IsResend := by
  unfold IsResend
  split
  · cases apart
  · exact id

end Effect

/-- The last DATA frame handed to the port. -/
def Journal.lastData? (journal : List Effect) : Option (UInt8 × List UInt8) :=
  (journal.filterMap Effect.data?).getLast?

/-- A step back undoes the step to the number after. -/
theorem Link.nextFrame_prepareResend {link : Link} {number : UInt8} (small : number.toNat < 8)
    (next : link.endpoint.sequence.nextFrame = (number + 1) % Wire.Control.modulus) :
    link.prepareResend.endpoint.sequence.nextFrame = number := by
  rw [← UInt8.toNat_inj]
  refine (toNat_preceding _).trans ?_
  rw [next, toNat_following]
  omega

namespace Host

theorem lastData?_of_unnumbered {before after : World} (adds : Unnumbered before after) :
    Journal.lastData? after.journal = Journal.lastData? before.journal := by
  rw [Journal.lastData?, adds.filterMap fun _ => Effect.data?_eq_none]
  rfl

/-- The command in flight is the oldest, its frame is the last one that was built, and the
next number is the one after it. -/
def Repeatable (host : Host) : Prop :=
  host.waiting = true → ∃ number command sequence,
    host.queue.head? = some command ∧ command.sequence = some sequence ∧ number.toNat < 8 ∧
    host.link.endpoint.sequence.nextFrame = (number + 1) % Wire.Control.modulus ∧
    Journal.lastData? host.world.journal =
      some (number, Ezsp.Frame.encode sequence command.id command.parameters)

/-- The next number is one of the eight, and its frame will not say that it is a repetition. -/
structure Fresh (host : Host) : Prop where
  small : host.nextNumber < 8
  unmarked : host.link.endpoint.resendNext = false

/-- On the way from one fresh host to the other nothing is repeated, and what could be
repeated still can. -/
structure Onward (host host' : Host) : Prop where
  fresh : host'.Fresh
  adds : World.Adds (fun effect => ¬ effect.IsResend) host.world host'.world
  repeatable : host.Repeatable → host'.Repeatable

variable {host host' last : Host}

/-- Nothing is in flight. -/
theorem repeatable_of_idle (idle : host.waiting = false) : host.Repeatable := by
  intro inFlight
  rw [idle] at inFlight
  cases inFlight

/-- Nothing has changed that a repetition depends on, and no DATA frame went out. -/
structure Still (host host' : Host) : Prop where
  oldest : host'.waiting = true → host.waiting = true ∧
    ∀ command ∈ host.queue.head?, command ∈ host'.queue.head?
  number : host'.link.endpoint.sequence.nextFrame = host.link.endpoint.sequence.nextFrame
  mark : host'.link.endpoint.resendNext = host.link.endpoint.resendNext
  adds : Unnumbered host.world host'.world

namespace Still

theorem oldest_kept (host : Host) (inFlight : host.waiting = true) :
    host.waiting = true ∧ ∀ command ∈ host.queue.head?, command ∈ host.queue.head? :=
  ⟨inFlight, fun _ => id⟩

/-- Only the world has changed, and it shows no DATA frame. -/
theorem of_world {world : World} (adds : Unnumbered host.world world) :
    Still host { host with world } :=
  ⟨oldest_kept host, rfl, rfl, adds⟩

theorem trans (first : Still host host') (second : Still host' last) : Still host last where
  oldest inFlight := by
    obtain ⟨before, same⟩ := second.oldest inFlight
    obtain ⟨start, first⟩ := first.oldest before
    exact ⟨start, fun command member => same command (first command member)⟩
  number := second.number.trans first.number
  mark := second.mark.trans first.mark
  adds := first.adds.trans second.adds

theorem record (host : Host) {effect : Effect} (apart : effect.dataNumber? = none) :
    Still host (host.record effect) :=
  of_world ((World.Adds.refl _).record apart)

theorem setMode (host : Host) (mode : Mode) : Still host (host.setMode mode) := by
  refine ⟨?_, ?_, ?_, adds_setMode host mode fun _ _ => rfl⟩
  all_goals rw [setMode_eq]
  exact oldest_kept host

theorem enterBootloader (host : Host) (goal : MenuEntry) :
    Still host (host.enterBootloader goal) := by
  refine ⟨?_, ?_, ?_, (quiet_enterBootloader host goal).unnumbered⟩
  all_goals rw [enterBootloader_shape]
  · exact fun inFlight => absurd inFlight Bool.false_ne_true
  all_goals rfl

end Still

theorem Repeatable.still (repeatable : host.Repeatable) (still : Still host host') :
    host'.Repeatable := by
  intro inFlight
  obtain ⟨before, same⟩ := still.oldest inFlight
  obtain ⟨taken, command, sequence, first, numbered, small, next, last⟩ := repeatable before
  refine ⟨taken, command, sequence, same command first, numbered, small, ?_, ?_⟩
  · rw [still.number, next]
  · rw [lastData?_of_unnumbered still.adds, last]

theorem Fresh.still (fresh : host.Fresh) (still : Still host host') : host'.Fresh where
  small := by rw [nextNumber, still.number]; exact fresh.small
  unmarked := still.mark.trans fresh.unmarked

/-- Whatever was in flight, after the host has sent what it can the frame in flight can be
repeated. -/
theorem repeatable_sendNext_idle (small : host.nextNumber < 8) :
    { host with waiting := false }.sendNext.2.Repeatable := by
  rcases host.sendNext_idle_cases with ⟨command, later, can, oldest⟩ | ⟨-, same⟩
  · rw [sendNext_of_can host can oldest]
    refine fun _ => ⟨host.link.endpoint.sequence.nextFrame, _, _, rfl, rfl, small, ?_, ?_⟩
    · rw [Link.send_eq]
      rfl
    · rw [Journal.lastData?, Link.send_journal, List.filterMap_append]
      exact List.getLast?_concat
  · rw [same]
    exact repeatable_of_idle rfl

theorem repeatable_resend (small : host.nextNumber < 8) (undertaking : Undertaking) :
    (host.resend undertaking).Repeatable := by
  have sent := repeatable_sendNext_idle small
  rcases attempt_cases undertaking { host with waiting := false }.sendNext with
    same | ⟨error, same⟩
  · rw [resend, same]
    exact sent
  · rw [resend, same]
    exact sent.still (.record _ rfl)

namespace Onward

theorem of_still (fresh : host.Fresh) (still : Still host host') : Onward host host' :=
  ⟨fresh.still still, still.adds.mono fun _ => Effect.not_isResend, fun before => before.still still⟩

theorem refl (fresh : host.Fresh) : Onward host host :=
  ⟨fresh, .refl _, id⟩

theorem trans (first : Onward host host') (second : Onward host' last) : Onward host last where
  fresh := second.fresh
  adds := first.adds.trans second.adds
  repeatable := second.repeatable ∘ first.repeatable

theorem sendNext_idle (fresh : host.Fresh) :
    Onward host { host with waiting := false }.sendNext.2 := by
  have repeatable := repeatable_sendNext_idle fresh.small
  rcases host.sendNext_idle_cases with ⟨command, later, can, oldest⟩ | ⟨-, same⟩
  · rw [sendNext_of_can host can oldest] at repeatable ⊢
    refine ⟨⟨?_, ?_⟩, ?_, fun _ => repeatable⟩
    · rw [nextNumber, Link.send_eq]
      exact following_lt _
    · rw [Link.send_eq]
      rfl
    · refine host.link.adds_send host.world _ (fun _ resend => ?_) fun _ _ => not_false
      exact Bool.false_ne_true (fresh.unmarked.symm.trans resend)
  · rw [same] at repeatable ⊢
    exact ⟨⟨fresh.small, fresh.unmarked⟩, .refl _, fun _ => repeatable⟩

theorem errand (fresh : host.Fresh) (errand : Errand host host') : Onward host host' := by
  cases errand with
  | send => exact sendNext_idle fresh
  | note | ready => exact of_still fresh (.record _ rfl)
  | launched => exact of_still fresh ⟨Still.oldest_kept host, rfl, rfl, .refl _⟩
  | mode mode => exact of_still fresh (.setMode host mode)
  | enter goal => exact of_still fresh (.enterBootloader host goal)

theorem errands (fresh : host.Fresh) (errands : Errands host host') : Onward host host' :=
  errands.relate (R := fun host host' => host.Fresh → Onward host host') (fun _ => refl)
    (fun first second fresh => (first fresh).trans (second (first fresh).fresh))
    (fun one fresh => errand fresh one) fresh

/-- Nothing that comes of the frames of the link is a repetition. -/
theorem foldl_told {up : Bool} {frames : List Wire.Frame} (fresh : host.Fresh)
    (events : List LinkEvent) (told : ∀ event ∈ events, event ∈ Wire.Frame.told up frames) :
    Onward host (events.foldl handleLinkEvent host) := by
  refine relate_foldl_told (R := fun host host' => host.Fresh → Onward host host')
    (fun _ => refl) (fun first second fresh => (first fresh).trans (second (first fresh).fresh))
    (fun one fresh => errand fresh one) (fun host fresh => ?_)
    (fun host frame fresh => of_still fresh (.record _ rfl))
    (fun host response command later fresh => ?_) events told host fresh
  · exact of_still fresh ⟨Still.oldest_kept host, rfl, rfl,
      host.link.adds_acknowledge host.world fun _ _ => rfl⟩
  · exact of_still fresh ⟨fun inFlight => absurd inFlight Bool.false_ne_true, rfl, rfl,
      ((World.Adds.refl _).record (by rfl)).record (by rfl)⟩

theorem of_calm (fresh : host.Fresh) (idle : host.waiting = false) (calm : Calm host host') :
    Onward host host' where
  fresh := by
    rcases calm.endpoint with same | ⟨tally, same⟩
    · exact ⟨by rw [nextNumber, same]; exact fresh.small, by rw [same]; exact fresh.unmarked⟩
    · exact ⟨by rw [nextNumber, same]; exact Nat.succ_pos 7, by rw [same]⟩
  adds := calm.adds.mono fun _ => Effect.not_isResend
  repeatable _ := repeatable_of_idle
    (Bool.eq_false_iff.mpr fun inFlight => Bool.eq_false_iff.mp idle (calm.waiting inFlight))

end Onward

/-- Once the host has been told of a NAK, what is in flight can be repeated again. -/
theorem repeatable_foldl_told {up : Bool} {frames : List Wire.Frame} (fresh : host.Fresh)
    {asked : UInt8} (among : .nak asked ∈ frames) :
    ((Wire.Frame.told up frames).foldl handleLinkEvent host).Repeatable := by
  obtain ⟨front, back, split⟩ := List.append_of_mem (Wire.Frame.nakObserved_mem_told among up)
  have told : ∀ event ∈ front ++ .nakObserved asked :: back,
      event ∈ Wire.Frame.told up frames := fun event member => split ▸ member
  rw [split, List.foldl_append, List.foldl_cons]
  have first : Onward host (front.foldl handleLinkEvent host) :=
    .foldl_told fresh front fun event member => told event (List.mem_append_left _ member)
  generalize front.foldl handleLinkEvent host = before at first ⊢
  have answered : Onward before (before.handleLinkEvent (.nakObserved asked)) :=
    .errands first.fresh (.nakObserved before asked)
  have resent : (before.handleLinkEvent (.nakObserved asked)).Repeatable :=
    repeatable_resend (first.fresh.still (.record _ rfl)).small _
  have rest : Onward _ (back.foldl handleLinkEvent _) :=
    .foldl_told answered.fresh back fun event member =>
      told event (List.mem_append_right _ (List.mem_cons_of_mem _ member))
  exact rest.repeatable resent

/-- While bytes are read a NAK may set another number, of which the host is then told. -/
theorem onward_receive {timeouts : Timeouts} (sound : host.standing.Sound timeouts)
    (fresh : host.Fresh) (bytes : List UInt8) : Onward host (host.receive bytes) := by
  have silent := unnumbered_read host bytes
  have same := (reads_read host bytes).rest
  cases active : host.active with
  | link =>
    have fresh' : (host.read bytes).Fresh := by
      constructor
      · rw [nextNumber, endpoint_read active]
        exact host.link.endpoint.nextFrame_receive_lt bytes fresh.small
      · rw [endpoint_read active, Endpoint.resendNext_receive]
        exact fresh.unmarked
    have told : Onward (host.read bytes) (host.receive bytes) := by
      rw [receive_link active]
      exact .foldl_told fresh' _ fun _ told => told
    refine ⟨told.fresh, (silent.mono fun _ => Effect.not_isResend).trans told.adds, ?_⟩
    intro repeatable
    by_cases naks : ∃ asked, .nak asked ∈ host.link.endpoint.frames bytes
    · obtain ⟨asked, among⟩ := naks
      rw [receive_link active]
      exact repeatable_foldl_told fresh' among
    · refine told.repeatable (repeatable.still ⟨?_, ?_, ?_, silent⟩)
      · rw [same]
        exact Still.oldest_kept host
      · rw [endpoint_read active]
        exact Endpoint.nextFrame_receive_of_not_mem fun asked among => naks ⟨asked, among⟩
      · rw [endpoint_read active, Endpoint.resendNext_receive]
  | console =>
    have idle : host.waiting = false := by
      refine Bool.eq_false_iff.mpr fun inFlight => ?_
      cases active.symm.trans (sound.carries inFlight).2.1
    have read : Calm host (host.read bytes) := by
      refine ⟨?_, .inl ?_, silent⟩
      · rw [same]
        exact id
      · rw [link_read active]
    rw [receive_console active]
    exact .of_calm fresh idle (read.trans (.foldl_handleConsoleEvent _ _))

theorem onward_submit (fresh : host.Fresh) (id : UInt8) (parameters : List UInt8) :
    Onward host (host.submit id parameters).2 := by
  rcases host.submit_cases id parameters with ⟨-, same⟩ | ⟨-, same⟩
  · rw [same]
    exact .refl fresh
  · have queued : Onward host (host.queued { id, parameters }) := by
      refine .of_still fresh ⟨fun inFlight => ⟨inFlight, fun command oldest => ?_⟩, rfl, rfl,
        (World.Adds.refl _).record rfl⟩
      have first : host.queue.head? = some command := oldest
      simp [Host.queued, record, List.head?_append, first]
    rw [same]
    exact queued.trans (.errands queued.fresh (.sendNext _))

theorem onward_switchMode (fresh : host.Fresh) (requested : Mode) :
    Onward host (host.switchMode requested).2 := by
  rcases host.switchMode_cases requested with
    same | ⟨entry, -, same | ⟨-, ⟨-, same⟩ | ⟨-, same⟩⟩⟩
  · rw [same]
    exact .of_still fresh (.record _ rfl)
  · rw [same]
    exact .refl fresh
  · have asking : Onward host host.askingLaunch :=
      .of_still fresh ⟨Still.oldest_kept host, rfl, rfl,
        (World.Adds.refl _).record rfl⟩
    rw [same]
    exact asking.trans (onward_submit asking.fresh _ _)
  · rw [same]
    exact .of_still fresh (.enterBootloader host entry)

theorem link_attempt (undertaking : Undertaking) (result : Except HostError Unit × Host) :
    (attempt undertaking result).link = result.2.link := by
  rcases attempt_cases undertaking result with same | ⟨error, same⟩
  · rw [same]
  · rw [same]
    rfl

/-- The host has polled its timers: at most one DATA frame was handed to the port, and that is
the last one once more. -/
structure Polled (host host' : Host) : Prop where
  fresh : host'.Fresh
  repeatable : host'.Repeatable
  number : host'.link.endpoint.sequence.nextFrame = host.link.endpoint.sequence.nextFrame
  journal : ∃ early resent late,
    host'.world.journal = host.world.journal ++ (early ++ resent ++ late) ∧
    (∀ entry ∈ early ++ late, entry.dataNumber? = none) ∧
    (resent = [] ∨ ∃ number payload outcome,
      Journal.lastData? host.world.journal = some (number, payload) ∧
      resent = [.sent (.frame
        (.data number host.link.endpoint.sequence.ackToSend true payload)) outcome])

namespace Polled

/-- No DATA frame was handed to the port. -/
theorem of_still (fresh : host.Fresh) (repeatable : host.Repeatable) (still : Still host host') :
    Polled host host' := by
  obtain ⟨added, journal, each⟩ := still.adds
  refine ⟨fresh.still still, repeatable.still still, still.number, added, [], [], ?_, ?_, .inl rfl⟩
  · rw [journal, List.append_nil, List.append_nil]
  · rw [List.append_nil]
    exact each

theorem after (polled : Polled host' last) (still : Still host host')
    (ackToSend : host'.link.endpoint.sequence.ackToSend = host.link.endpoint.sequence.ackToSend) :
    Polled host last := by
  obtain ⟨added, journal, each⟩ := still.adds
  obtain ⟨early, resent, late, journal', apart, repeats⟩ := polled.journal
  refine ⟨polled.fresh, polled.repeatable, polled.number.trans still.number,
    added ++ early, resent, late, ?_, ?_, ?_⟩
  · simp only [journal', journal, List.append_assoc]
  · intro entry member
    rw [List.append_assoc] at member
    exact (List.mem_append.mp member).elim (each entry) (apart entry)
  · rw [← lastData?_of_unnumbered still.adds, ← ackToSend]
    exact repeats

theorem followed (polled : Polled host host') (still : Still host' last) : Polled host last := by
  obtain ⟨added, journal, each⟩ := still.adds
  obtain ⟨early, resent, late, journal', apart, repeats⟩ := polled.journal
  refine ⟨polled.fresh.still still, polled.repeatable.still still,
    still.number.trans polled.number, early, resent, late ++ added, ?_, ?_, repeats⟩
  · simp only [journal', journal, List.append_assoc]
  · intro entry member
    rw [← List.append_assoc] at member
    exact (List.mem_append.mp member).elim (apart entry) (each entry)

/-- A step back and a transmission repeat the frame in flight. -/
theorem rewound (can : host.CanSend) (inFlight : host.waiting = true)
    (repeatable : host.Repeatable) (undertaking : Undertaking) :
    Polled host ({ host with link := host.link.prepareResend }.resend undertaking) := by
  obtain ⟨taken, command, sequence, first, numbered, small, next, last⟩ := repeatable inFlight
  obtain ⟨later, oldest⟩ : ∃ later, host.queue = command :: later :=
    ⟨_, List.eq_cons_of_mem_head? first⟩
  let payload := Ezsp.Frame.encode sequence command.id command.parameters
  let again : Wire.Frame := .data taken host.link.endpoint.sequence.ackToSend true payload
  let rewound : Host := { host with link := host.link.prepareResend }
  have back : rewound.link.endpoint.sequence.nextFrame = taken :=
    Link.nextFrame_prepareResend small next
  have built : (rewound.link.endpoint.data payload).1 = again := by
    simp only [again, ← back]
    rfl
  have sent := sendNext_of_can rewound ⟨can.opened, can.active, can.connected⟩ oldest
  rw [numbered, Option.getD_some] at sent
  obtain ⟨notes, journal⟩ := attempt_journal undertaking { rewound with waiting := false }.sendNext
  have link := link_attempt undertaking { rewound with waiting := false }.sendNext
  rw [sent] at journal link
  rw [Link.send_journal, built] at journal
  rw [Link.send_eq] at link
  have number : (rewound.resend undertaking).link.endpoint.sequence.nextFrame =
      host.link.endpoint.sequence.nextFrame := by
    rw [resend, link, next, ← back]
    rfl
  refine ⟨⟨?_, ?_⟩, repeatable_resend (by rwa [nextNumber, back]) undertaking, number, ?_⟩
  · rw [nextNumber, number, next]
    exact following_lt _
  · rw [resend, link]
    rfl
  · refine ⟨(Endpoint.oversized payload).map .noted,
      [.sent (.frame again) (host.world.port.write again.wire).1], notes.map .noted, ?_, ?_,
      .inr ⟨taken, payload, _, last, rfl⟩⟩
    · rw [resend, journal, List.append_assoc, List.append_assoc, List.append_assoc]
    · intro entry member
      rw [← List.map_append] at member
      obtain ⟨note, -, rfl⟩ := List.mem_map.mp member
      rfl

end Polled

theorem still_pollConsole (host : Host) : Still host host.pollConsole := by
  have probed : Still host host.probed :=
    ⟨Still.oldest_kept host, rfl, rfl,
      host.console.adds_poll host.world fun _ => rfl⟩
  rcases host.pollConsole_cases with same | ⟨-, -, same | ⟨error, same⟩⟩
  · rw [same]
    exact .of_world (.refl _)
  · rw [same]
    exact probed
  · rw [same]
    exact probed.trans (.record _ rfl)

theorem still_handleResetFailed (host : Host) : Still host host.handleResetFailed := by
  rcases host.handleResetFailed_cases with ⟨-, goal, same⟩ | ⟨-, same⟩
  · rw [same]
    exact (Still.record host rfl).trans (.enterBootloader _ goal)
  · rw [same]
    exact (Still.record host rfl).trans (.record _ rfl)

theorem endpoint_polled (host : Host) : host.polled.link.endpoint = host.link.endpoint :=
  host.link.poll_endpoint host.world

/-- The timer of the link stands for the command in flight, which a timeout repeats. -/
theorem polled_pollLink {timeouts : Timeouts} (sound : host.standing.Sound timeouts)
    (fresh : host.Fresh) (repeatable : host.Repeatable) : Polled host host.pollLink := by
  have polled : Still host host.polled :=
    ⟨Still.oldest_kept host, by rw [endpoint_polled], by rw [endpoint_polled],
      host.link.adds_poll host.world fun _ _ => rfl⟩
  rcases host.pollLink_cases with ⟨-, same⟩ | ⟨event, expired, same⟩
  · rw [same]
    exact .of_still fresh repeatable polled
  obtain ⟨-, ⟨-, rfl⟩ | ⟨-, rfl⟩⟩ := Link.poll_some expired
  · rw [same]
    exact .of_still fresh repeatable (polled.trans (still_handleResetFailed _))
  · rcases host.polled.ackTimeout_cases host.link.policy.timeout.1 with idle | ⟨inFlight, again⟩
    · rw [same, idle]
      exact .of_still fresh repeatable polled
    · have noted : Still host (host.polled.note .retransmitting) := polled.trans (.record _ rfl)
      obtain ⟨opened, active, connected, -⟩ := sound.carries inFlight
      have can : (host.polled.note .retransmitting).CanSend := by
        refine ⟨opened, active, ?_⟩
        rw [Link.connected, ← endpoint_polled] at connected
        exact connected
      rw [same, again]
      refine (Polled.rewound can inFlight (repeatable.still noted) .retransmit).after noted ?_
      exact congrArg (·.sequence.ackToSend) (endpoint_polled host)

theorem polled_poll {timeouts : Timeouts} (sound : host.standing.Sound timeouts)
    (fresh : host.Fresh) (repeatable : host.Repeatable) : Polled host host.poll :=
  (polled_pollLink sound fresh repeatable).followed (still_pollConsole _)

/-- Whatever was in flight is given up, and the numbers start over. -/
theorem onward_sendReset (fresh : host.Fresh) : Onward host host.sendReset.2 := by
  rcases host.sendReset_cases with ⟨-, same⟩ | ⟨-, same⟩
  · rw [same]
    exact .refl fresh
  · rw [same]
    refine ⟨?_, ?_, fun _ => repeatable_of_idle rfl⟩
    · rw [restarted, Link.reset_eq]
      exact ⟨Nat.succ_pos 7, rfl⟩
    · exact host.link.adds_reset host.world (fun _ => not_false) fun _ _ => not_false

theorem onward_openPort (fresh : host.Fresh) : Onward host host.openPort.2 := by
  have taken : Onward host { (host.note (.opening host.world.port.name)).record .handedBack with
      opened := true
      active := .link } :=
    .of_still fresh ⟨Still.oldest_kept host, rfl, rfl,
      ((World.Adds.refl _).record (by rfl)).record (by rfl)⟩
  exact taken.trans (onward_sendReset taken.fresh)

theorem still_closePort (host : Host) : Still host host.closePort.2 :=
  ⟨fun inFlight => absurd inFlight Bool.false_ne_true, rfl, rfl,
    ((World.Adds.refl _).record (by rfl)).record (by rfl)⟩

/-- Only polling the timers repeats a frame. -/
theorem onward_step {timeouts : Timeouts} (sound : host.standing.Sound timeouts)
    (fresh : host.Fresh) {operation : Operation} (other : operation ≠ .poll) :
    Onward host (host.step operation) := by
  cases operation with
  | poll => exact absurd rfl other
  | openPort => exact onward_openPort fresh
  | closePort => exact .of_still fresh (still_closePort host)
  | submit id parameters => exact onward_submit fresh id parameters
  | receive bytes => exact onward_receive sound fresh bytes
  | switchMode requested => exact onward_switchMode fresh requested
  | forceUpgrade | fireLink | fireConsole | port =>
    exact .of_still fresh ⟨Still.oldest_kept host, rfl, rfl, .refl _⟩

theorem repeatable_run (settings : Settings) (port : Port) (now : Nat) (history : List Operation) :
    ((ofSettings settings { port, now }).run history).Fresh ∧
      ((ofSettings settings { port, now }).run history).Repeatable := by
  induction history using List.reverseRecOn with
  | nil => exact ⟨⟨Nat.succ_pos 7, rfl⟩, repeatable_of_idle rfl⟩
  | append_singleton front last ih =>
    have sound := sound_run settings port now front
    obtain ⟨fresh, repeatable⟩ := ih
    rw [run_append]
    by_cases polls : last = .poll
    · rw [polls]
      have polled := polled_poll sound fresh repeatable
      exact ⟨polled.fresh, polled.repeatable⟩
    · have onward := onward_step sound fresh polls
      exact ⟨onward.fresh, onward.repeatable repeatable⟩

/-- Polling the timers after any history hands at most one DATA frame to the port: the last one
that was handed to it, with the same number and content, marked as a repetition and carrying
the acknowledgement that is due; and the number of the next frame stays. All DATA frames in
the journal that are marked have come about in this way. -/
theorem retransmissions_repeat (settings : Settings) (port : Port) (now : Nat)
    (history : List Operation) :
    let start := ofSettings settings { port, now }
    let host := start.run history
    (∃ early resent late,
      host.poll.world.journal = host.world.journal ++ (early ++ resent ++ late) ∧
      (∀ entry ∈ early ++ late, entry.dataNumber? = none) ∧
      (resent = [] ∨ ∃ number payload outcome,
        Journal.lastData? host.world.journal = some (number, payload) ∧
        resent = [.sent (.frame
          (.data number host.link.endpoint.sequence.ackToSend true payload)) outcome])) ∧
    host.poll.link.endpoint.sequence.nextFrame = host.link.endpoint.sequence.nextFrame ∧
    ∀ before entry after, host.world.journal = before ++ entry :: after → entry.IsResend →
      ∃ earlier later shown rest, history = earlier ++ .poll :: later ∧
        before = (start.run earlier).world.journal ++ shown ∧
        (start.run earlier).poll.world.journal =
          (start.run earlier).world.journal ++ (shown ++ entry :: rest) := by
  intro start host
  obtain ⟨fresh, repeatable⟩ := repeatable_run settings port now history
  have polled := polled_poll (sound_run settings port now history) fresh repeatable
  refine ⟨polled.journal, polled.number, ?_⟩
  intro before entry after split resend
  obtain ⟨earlier, operation, later, shown, rest, rfl, rfl, journal⟩ :=
    exists_step split (Nat.zero_le _)
  by_cases polls : operation = .poll
  · subst polls
    exact ⟨earlier, later, shown, rest, rfl, rfl, journal⟩
  · have onward := onward_step (sound_run settings port now earlier)
      (repeatable_run settings port now earlier).1 polls
    obtain ⟨added, grown, each⟩ := onward.adds
    have same := List.append_cancel_left (grown.symm.trans journal)
    exact absurd resend (each entry (by simp [same]))

end Host
end NcpHost
