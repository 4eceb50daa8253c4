import Mathlib.Data.List.Forall2
import NcpHost.Endpoint.Duplex
import NcpHost.Proofs.Endpoint.Numbers
import NcpHost.Proofs.Host.Errand
import NcpHost.Proofs.Host.Reading

/-! How the DATA frames of a piece of the line are answered for. Each has a stretch of the
journal to itself, which its acknowledgement opens: then comes what the user is told of it,
and then all that it leads to, until the next one's turn. All the acknowledgements are alike,
since the number that is due was read when the whole piece was. -/
namespace NcpHost

/-- What the user is told of a payload, if it is a command frame. -/
def Event.ofPayload? (payload : List UInt8) : Option Event :=
  match Ezsp.Frame.decode payload with
  | .ok frame => some (.frameReceived frame.commandId frame.sequence frame.parameters)
  | .error _ => none

def LinkEvent.payload? : LinkEvent → Option (List UInt8)
  | .payload data => some data
  | _ => none

/-- The number of an acknowledgement. -/
def Transmission.ack? : Transmission → Option UInt8
  | .frame content => content.ackNumber?
  | _ => none

namespace Effect

/-- The number of an acknowledgement handed to the port. -/
def ack? (effect : Effect) : Option UInt8 := effect.transmission?.bind Transmission.ack?

/-- What the user is told of a command frame. -/
def message? : Effect → Option Event
  | .reported (.frameReceived commandId sequence parameters) =>
    some (.frameReceived commandId sequence parameters)
  | _ => none

/-- The response by which a command is settled. -/
def response? : Effect → Option Ezsp.Frame
  | .answered _ response => some response
  | _ => none

/-- Neither acknowledges a frame nor reports one, and settles a command by `own?` if at all. -/
structure IsAside (own? : Option Ezsp.Frame) (effect : Effect) : Prop where
  ack : effect.ack? = none
  message : effect.message? = none
  response : effect.response? = none ∨ effect.response? = own?

theorem isAside_noted {own? : Option Ezsp.Frame} (note : Note) : (Effect.noted note).IsAside own? :=
  ⟨rfl, rfl, .inl rfl⟩

theorem IsAside.mono {effect : Effect} (aside : effect.IsAside none) (own? : Option Ezsp.Frame) :
    effect.IsAside own? :=
  ⟨aside.ack, aside.message, .inl (aside.response.elim id id)⟩

end Effect

namespace Wire.Frame

/-- The owner of a link is told of every payload. -/
theorem payloads_told (up : Bool) (frames : List Frame) :
    (told up frames).filterMap LinkEvent.payload? = payloads frames := by
  induction frames generalizing up with
  | nil => rfl
  | cons frame later ih =>
    rw [told, List.filterMap_append, ih]
    cases frame with
    | data | ack | nak | reset => rfl
    | resetAck => cases up <;> rfl

end Wire.Frame

/-- The stretch of the journal that answers for a DATA frame: its acknowledgement under
`number`, notes if the port refuses that, what the user is told, and what comes of it. -/
def Receipt (number : UInt8) (payload : List UInt8) (part : List Effect) : Prop :=
  ∃ (outcome : WriteOutcome) (failure : List Note) (rest : List Effect),
    part = .sent (.frame (.ack number)) outcome ::
      (failure.map .noted ++ ((Event.ofPayload? payload).toList.map .reported ++ rest)) ∧
    ∀ entry ∈ rest, entry.IsAside (Ezsp.Frame.decode payload).toOption

namespace Receipt

variable {number : UInt8} {payload : List UInt8} {part : List Effect}

theorem append (receipt : Receipt number payload part) {more : List Effect}
    (aside : ∀ entry ∈ more, entry.IsAside none) : Receipt number payload (part ++ more) := by
  obtain ⟨outcome, failure, rest, rfl, each⟩ := receipt
  refine ⟨outcome, failure, rest ++ more, by simp, fun entry member => ?_⟩
  exact (List.mem_append.mp member).elim (each entry) fun new => (aside entry new).mono _

/-- There is one acknowledgement in it. -/
theorem acks (receipt : Receipt number payload part) : part.filterMap Effect.ack? = [number] := by
  obtain ⟨outcome, failure, rest, rfl, each⟩ := receipt
  have failed : (failure.map Effect.noted).filterMap Effect.ack? = [] := by
    simp [Effect.ack?, Effect.transmission?]
  have told : ((Event.ofPayload? payload).toList.map Effect.reported).filterMap Effect.ack? =
      [] := by
    simp [Effect.ack?, Effect.transmission?]
  have after : rest.filterMap Effect.ack? = [] :=
    List.filterMap_eq_nil_iff.mpr fun entry member => (each entry member).ack
  have first : (Effect.sent (.frame (.ack number)) outcome).ack? = some number := rfl
  rw [List.filterMap_cons_some first, List.filterMap_append, List.filterMap_append, failed, told,
    after]
  rfl

/-- The user is told of it once, if it is a command frame. -/
theorem messages (receipt : Receipt number payload part) :
    part.filterMap Effect.message? = (Event.ofPayload? payload).toList := by
  obtain ⟨outcome, failure, rest, rfl, each⟩ := receipt
  have failed : (failure.map Effect.noted).filterMap Effect.message? = [] := by
    simp [Effect.message?]
  have told : ((Event.ofPayload? payload).toList.map Effect.reported).filterMap Effect.message? =
      (Event.ofPayload? payload).toList := by
    unfold Event.ofPayload?
    split <;> rfl
  have after : rest.filterMap Effect.message? = [] :=
    List.filterMap_eq_nil_iff.mpr fun entry member => (each entry member).message
  rw [List.filterMap_cons_none rfl, List.filterMap_append, List.filterMap_append, failed, told,
    after, List.append_nil]
  rfl

end Receipt

/-- What the second world has beyond the first: a receipt for each payload in order, and before
the first of them what stands aside. -/
def Receipts (number : UInt8) (payloads : List (List UInt8)) (before after : World) : Prop :=
  ∃ opening parts, after.journal = before.journal ++ (opening ++ parts.flatten) ∧
    (∀ entry ∈ opening, Effect.IsAside none entry) ∧
    List.Forall₂ (Receipt number) payloads parts

section
variable {number : UInt8} {payload : List UInt8} {payloads : List (List UInt8)}
  {parts : List (List Effect)} {before middle after : World}

theorem Receipts.nil (world : World) : Receipts number [] world world :=
  ⟨[], [], by simp, by simp, .nil⟩

theorem Receipts.aside (adds : World.Adds (Effect.IsAside none) before middle)
    (receipts : Receipts number payloads middle after) :
    Receipts number payloads before after := by
  obtain ⟨added, journal, each⟩ := adds
  obtain ⟨opening, parts, journal', aside, receipts⟩ := receipts
  refine ⟨added ++ opening, parts, ?_, ?_, receipts⟩
  · rw [journal', journal]
    simp only [List.append_assoc]
  · exact fun entry member => (List.mem_append.mp member).elim (each entry) (aside entry)

theorem Receipts.cons {part : List Effect} (journal : middle.journal = before.journal ++ part)
    (receipt : Receipt number payload part) (receipts : Receipts number payloads middle after) :
    Receipts number (payload :: payloads) before after := by
  obtain ⟨opening, parts, journal', aside, receipts⟩ := receipts
  refine ⟨[], (part ++ opening) :: parts, ?_, by simp, .cons (receipt.append aside) receipts⟩
  rw [journal', journal]
  simp only [List.nil_append, List.flatten_cons, List.append_assoc]

theorem acks_flatten (receipts : List.Forall₂ (Receipt number) payloads parts) :
    parts.flatten.filterMap Effect.ack? = List.replicate payloads.length number := by
  induction receipts with
  | nil => rfl
  | cons receipt _ ih =>
    rw [List.flatten_cons, List.filterMap_append, receipt.acks, ih]
    rfl

theorem messages_flatten (receipts : List.Forall₂ (Receipt number) payloads parts) :
    parts.flatten.filterMap Effect.message? = payloads.filterMap Event.ofPayload? := by
  induction receipts with
  | nil => rfl
  | @cons payload _ _ _ receipt _ ih =>
    rw [List.flatten_cons, List.filterMap_append, receipt.messages, ih]
    cases told : Event.ofPayload? payload with
    | none => rw [List.filterMap_cons_none told]; rfl
    | some event => rw [List.filterMap_cons_some told]; rfl

end

namespace Host

/-- All that lies between the two stands aside from the frames that were read, or settles a
command by `own?`; and the port is held on to. -/
structure Aside (own? : Option Ezsp.Frame) (host host' : Host) : Prop where
  opened : host'.opened = host.opened
  ackToSend : host'.link.endpoint.sequence.ackToSend = host.link.endpoint.sequence.ackToSend
  adds : World.Adds (Effect.IsAside own?) host.world host'.world

variable {own? : Option Ezsp.Frame} {host host' last : Host}

namespace Aside

theorem refl (host : Host) : Aside own? host host := ⟨rfl, rfl, .refl _⟩

theorem trans (first : Aside own? host host') (second : Aside own? host' last) :
    Aside own? host last :=
  ⟨second.opened.trans first.opened, second.ackToSend.trans first.ackToSend,
    first.adds.trans second.adds⟩

theorem note (host : Host) (note : Note) : Aside own? host (host.note note) :=
  ⟨rfl, rfl, (World.Adds.refl _).record (Effect.isAside_noted note)⟩

theorem sendNext_idle (host : Host) : Aside own? host { host with waiting := false }.sendNext.2 := by
  rcases host.sendNext_idle_cases with ⟨command, later, can, oldest⟩ | ⟨-, same⟩
  · rw [sendNext_of_can host can oldest]
    refine ⟨rfl, by rw [Link.send_eq]; rfl, ?_⟩
    exact host.link.adds_send host.world _ (fun _ => ⟨rfl, rfl, .inl rfl⟩)
      fun note _ => Effect.isAside_noted note
  · rw [same]
    exact ⟨rfl, rfl, .refl _⟩

theorem enterBootloader (host : Host) (goal : MenuEntry) :
    Aside own? host (host.enterBootloader goal) := by
  refine ⟨?_, ?_, ?_⟩
  · rw [enterBootloader_shape]
    rfl
  · rw [enterBootloader_shape]
    rfl
  · exact adds_enterBootloader host goal ⟨rfl, rfl, .inl rfl⟩ ⟨rfl, rfl, .inl rfl⟩
      fun _ _ => ⟨rfl, rfl, .inl rfl⟩

theorem errand (errand : Errand host host') : Aside own? host host' := by
  cases errand with
  | note note => exact .note host note
  | ready => exact ⟨rfl, rfl, (World.Adds.refl _).record ⟨rfl, rfl, .inl rfl⟩⟩
  | mode mode =>
    exact ⟨opened_setMode host mode, by rw [setMode_eq],
      adds_setMode host mode fun _ _ => ⟨rfl, rfl, .inl rfl⟩⟩
  | send => exact sendNext_idle host
  | launched => exact ⟨rfl, rfl, .refl _⟩
  | enter goal => exact enterBootloader host goal

theorem errands (errands : Errands host host') : Aside own? host host' :=
  errands.relate refl trans errand

theorem answered (host : Host) (response : Ezsp.Frame) (command : Ezsp.Command)
    (later : List Ezsp.Command) :
    Aside (some response) host (host.answeredBy response command later) :=
  ⟨rfl, rfl, ((World.Adds.refl _).record ⟨rfl, rfl, .inl rfl⟩).record ⟨rfl, rfl, .inr rfl⟩⟩

end Aside

theorem sequence_acknowledge (host : Host) :
    host.acknowledge.link.endpoint.sequence = host.link.endpoint.sequence := by
  rcases host.acknowledge_cases with ⟨-, same⟩ | ⟨-, same | ⟨error, same⟩⟩
  · rw [same]
  all_goals
    rw [same]
    rfl

/-- The acknowledgement of a frame goes out under the number that is due. -/
theorem acknowledge_journal (opened : host.opened = true) :
    ∃ (outcome : WriteOutcome) (failure : List Note), host.acknowledge.world.journal =
      host.world.journal ++ .sent (.frame (.ack host.link.endpoint.sequence.ackToSend)) outcome ::
        failure.map .noted := by
  rcases host.acknowledge_cases with ⟨shut, -⟩ | ⟨-, same | ⟨error, same⟩⟩
  · cases shut.symm.trans opened
  · rw [same]
    exact ⟨_, [], rfl⟩
  · rw [same]
    exact ⟨_, [.ackFailed error], List.append_assoc _ _ _⟩

/-- A payload is acknowledged, reported if it is a command frame, and then acted upon. -/
theorem payload_reported (host : Host) (payload : List UInt8) :
    ∃ informed : Host, informed.opened = host.opened ∧
      informed.link.endpoint.sequence = host.link.endpoint.sequence ∧
      informed.world.journal = host.acknowledge.world.journal ++
        (Event.ofPayload? payload).toList.map .reported ∧
      Aside (Ezsp.Frame.decode payload).toOption informed (host.handlePayload payload) := by
  have opened := host.opened_acknowledge
  have sequence := host.sequence_acknowledge
  rcases host.handlePayload_cases payload with ⟨error, malformed, same⟩ | ⟨frame, decoded, told⟩
  · refine ⟨host.acknowledge, opened, sequence, ?_, ?_⟩
    · simp [Event.ofPayload?, malformed]
    · rw [same]
      exact .note _ _
  · refine ⟨host.acknowledge.heard frame, opened, sequence, ?_, ?_⟩
    · rw [Event.ofPayload?, decoded]
      rfl
    · rw [decoded]
      rcases told with same | ⟨-, command, later, -, -, same⟩
      · rw [same]
        exact .note _ _
      · rw [same]
        exact (Aside.answered _ frame command later).trans (.errands (.complete _ _ _ _))

/-- A payload is answered for by a receipt. -/
theorem receipt_handlePayload (opened : host.opened = true) (payload : List UInt8) :
    (∃ part, (host.handlePayload payload).world.journal = host.world.journal ++ part ∧
      Receipt host.link.endpoint.sequence.ackToSend payload part) ∧
    (host.handlePayload payload).opened = true ∧
    (host.handlePayload payload).link.endpoint.sequence.ackToSend =
      host.link.endpoint.sequence.ackToSend := by
  obtain ⟨outcome, failure, acknowledged⟩ := acknowledge_journal opened
  obtain ⟨informed, still, sequence, told, aside⟩ := host.payload_reported payload
  obtain ⟨rest, journal, each⟩ := aside.adds
  refine ⟨⟨_, ?_, outcome, failure, rest, rfl, each⟩, ?_, ?_⟩
  · rw [journal, told, acknowledged]
    simp only [List.append_assoc, List.cons_append]
  · rw [aside.opened, still, opened]
  · rw [aside.ackToSend, sequence]

/-- One receipt for each payload that the host is told of, in order; other events stand aside. -/
theorem receipts_foldl {up : Bool} {frames : List Wire.Frame} (events : List LinkEvent)
    (told : ∀ event ∈ events, event ∈ Wire.Frame.told up frames) (opened : host.opened = true) :
    Receipts host.link.endpoint.sequence.ackToSend (events.filterMap LinkEvent.payload?)
      host.world (events.foldl handleLinkEvent host).world := by
  induction events generalizing host with
  | nil => exact .nil _
  | cons event later ih =>
    obtain ⟨first, rest⟩ := List.forall_mem_cons.mp told
    have skipped (aside : Aside none host (host.handleLinkEvent event)) :
        Receipts host.link.endpoint.sequence.ackToSend (later.filterMap LinkEvent.payload?)
          host.world ((event :: later).foldl handleLinkEvent host).world := by
      have receipts := ih rest (aside.opened.trans opened)
      rw [aside.ackToSend] at receipts
      exact .aside aside.adds receipts
    rcases Wire.Frame.mem_of_told first with ⟨payload, rfl⟩ | ⟨asked, rfl, -⟩ | ⟨code, rfl, -⟩
    · obtain ⟨⟨part, journal, receipt⟩, still, same⟩ := receipt_handlePayload opened payload
      have receipts := ih rest still
      rw [same] at receipts
      exact .cons journal receipt receipts
    · exact skipped (.errands (.nakObserved host asked))
    · exact skipped (.errands (.handleConnected host code))

theorem receipts_receive (active : host.active = .link) (opened : host.opened = true)
    (bytes : List UInt8) :
    Receipts (host.read bytes).link.endpoint.sequence.ackToSend
      (Wire.Frame.payloads (host.link.endpoint.frames bytes)) host.world
      (host.receive bytes).world := by
  have read : World.Adds (Effect.IsAside none) host.world (host.read bytes).world := by
    have received : World.Adds (Effect.IsAside none) host.world
        (host.record (.received bytes)).world :=
      (World.Adds.refl _).record ⟨rfl, rfl, .inl rfl⟩
    exact received.trans (adds_read host bytes (fun note _ => Effect.isAside_noted note)
      ⟨rfl, rfl, .inl rfl⟩)
  have held : (host.read bytes).opened = true := by
    rw [(reads_read host bytes).rest]
    exact opened
  rw [receive_link active, ← Wire.Frame.payloads_told host.link.connected]
  exact .aside read (receipts_foldl _ (fun _ told => told) held)

/-- Bytes that come while the link has the open port: every DATA frame among their valid frames
has a receipt, in order, and all of them under the number after that of the last. Hence the
frames are acknowledged once each, those which are command frames are reported once each, and
if all that was handed to the port was delivered, so were the acknowledgements. -/
theorem data_acknowledged_in_turn (host : Host) (bytes : List UInt8)
    (active : host.active = .link) (opened : host.opened = true) :
    let frames := host.link.endpoint.frames bytes
    let payloads := Wire.Frame.payloads frames
    let number := (frames.filterMap Wire.Frame.dataNumber?).getLast?.elim
      host.link.endpoint.sequence.ackToSend fun number => (number + 1) % Wire.Control.modulus
    ∃ opening parts,
      (host.receive bytes).world.journal = host.world.journal ++ (opening ++ parts.flatten) ∧
      (∀ entry ∈ opening, Effect.IsAside none entry) ∧
      List.Forall₂ (Receipt number) payloads parts ∧
      (opening ++ parts.flatten).filterMap Effect.ack? = List.replicate payloads.length number ∧
      (opening ++ parts.flatten).filterMap Effect.message? =
        payloads.filterMap Event.ofPayload? ∧
      ((∀ entry ∈ opening ++ parts.flatten, entry.delivered? = entry.transmission?) →
        ((opening ++ parts.flatten).filterMap Effect.delivered?).filterMap Transmission.ack? =
          List.replicate payloads.length number) := by
  intro frames payloads number
  have due : (host.read bytes).link.endpoint.sequence.ackToSend = number := by
    rw [endpoint_read active, Endpoint.ackToSend_receive]
  have receipts := receipts_receive active opened bytes
  rw [due] at receipts
  obtain ⟨opening, parts, journal, aside, receipts⟩ := receipts
  have acks : (opening ++ parts.flatten).filterMap Effect.ack? =
      List.replicate payloads.length number := by
    have none : opening.filterMap Effect.ack? = [] :=
      List.filterMap_eq_nil_iff.mpr fun entry member => (aside entry member).ack
    rw [List.filterMap_append, none, acks_flatten receipts, List.nil_append]
  have messages : (opening ++ parts.flatten).filterMap Effect.message? =
      payloads.filterMap Event.ofPayload? := by
    have none : opening.filterMap Effect.message? = [] :=
      List.filterMap_eq_nil_iff.mpr fun entry member => (aside entry member).message
    rw [List.filterMap_append, none, messages_flatten receipts, List.nil_append]
  refine ⟨opening, parts, journal, aside, receipts, acks, messages, fun delivered => ?_⟩
  rw [← acks, List.filterMap_filterMap]
  refine List.filterMap_congr fun entry member => ?_
  rw [delivered entry member]
  rfl

/-- A response and a payload that is no command frame come in one piece: both acknowledgements
are under 2, and one frame is reported. -/
theorem response_and_garbled_payload_acknowledged :
    let bytes := (Wire.Frame.data 0 1 false [0x00, 0x80, 0xFF, 0x00, 0x05]).wire ++
      (Wire.Frame.data 1 1 false [0x01]).wire
    let host := Host.run (.ofSettings {} { port := { name := "line" } })
      [.openPort, .receive (Wire.Frame.resetAck .powerOn).wire, .submit 0x05 []]
    host.active = .link ∧ host.opened = true ∧
      ∃ added, (host.receive bytes).world.journal = host.world.journal ++ added ∧
        added.filterMap Effect.ack? = [2, 2] ∧
        added.filterMap Effect.message? = [.frameReceived 0x05 0 []] ∧
        (added.filterMap Effect.delivered?).filterMap Transmission.ack? = [2, 2] := by
  intro bytes host
  have active : host.active = .link := by decide +kernel
  have opened : host.opened = true := by decide +kernel
  obtain ⟨opening, parts, journal, -, -, acks, messages, delivered⟩ :=
    data_acknowledged_in_turn host bytes active opened
  have numbers : List.replicate
      (Wire.Frame.payloads (host.link.endpoint.frames bytes)).length
      (((host.link.endpoint.frames bytes).filterMap Wire.Frame.dataNumber?).getLast?.elim
        host.link.endpoint.sequence.ackToSend fun number =>
          (number + 1) % Wire.Control.modulus) = [2, 2] := by
    decide +kernel
  have told : (Wire.Frame.payloads (host.link.endpoint.frames bytes)).filterMap
      Event.ofPayload? = [.frameReceived 0x05 0 []] := by
    decide +kernel
  have added : opening ++ parts.flatten =
      (host.receive bytes).world.journal.drop host.world.journal.length := by
    rw [journal, List.drop_left]
  refine ⟨active, opened, _, journal, acks.trans numbers, messages.trans told, ?_⟩
  refine (delivered ?_).trans numbers
  rw [added]
  decide +kernel

end Host
end NcpHost
