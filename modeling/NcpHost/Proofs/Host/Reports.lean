import NcpHost.Proofs.Host.Move

/-! What a host reports: whatever happens to the adapter, and never the bytes that pass the
port. Those are shown to the user by whoever moves them. -/
namespace NcpHost

/-- Entries that report no packet. -/
def Effect.IsPacketless (effect : Effect) : Prop :=
  ∀ event, effect.event? = some event → event.isPacket = false

theorem Effect.IsPacketless.of_none {effect : Effect} (none : effect.event? = none) :
    effect.IsPacketless := by
  intro event told
  rw [none] at told
  cases told

theorem Event.isPacket_of_kind {event : Event} (other : event.kind ≠ .packet) :
    event.isPacket = false := by
  cases event with
  | packet => exact absurd rfl other
  | adapterReady | adapterSilent | frameReceived | promptSeen | transferReady | modeChanged => rfl

theorem Effect.IsRemark.isPacketless {effect : Effect} (isRemark : effect.IsRemark) :
    effect.IsPacketless := by
  cases effect with
  | noted => exact .of_none rfl
  | reported event =>
    rintro _ ⟨⟩
    exact Event.isPacket_of_kind isRemark.2
  | received | sent | queued | answered | handedOver | handedBack | waitEnded => exact isRemark.elim

abbrev World.Packetless : World → World → Prop := Adds Effect.IsPacketless

namespace Host

variable {hearer : Option Engine} {host host' : Host}

theorem Move.packetless (move : Move hearer host host') :
    World.Packetless host.world host'.world := by
  have changed (old new : Mode) : (Effect.reported (.modeChanged old new)).IsPacketless := by
    rintro _ ⟨⟩
    rfl
  cases move with
  | force | port | fireLink | fireConsole | launch | launched | settle | rewind | hold =>
    exact .refl _
  | remark effect isRemark => exact (World.Adds.refl _).record isRemark.isPacketless
  | mode mode => exact adds_setMode host mode changed
  | enqueue command opened unsent => exact (World.Adds.refl _).record (.of_none rfl)
  | send command later can oldest =>
    rw [sendNext_of_can host can oldest]
    exact host.link.adds_send host.world _ (fun _ => .of_none rfl) fun _ _ => .of_none rfl
  | answer response command later inFlight oldest matching heard =>
    refine (((World.Adds.refl _).record ?_).record (.of_none rfl)).record (.of_none rfl)
    rintro _ ⟨⟩
    rfl
  | read bytes active =>
    exact host.link.adds_receive host.world bytes (fun _ _ => .of_none rfl) (.of_none rfl)
  | acknowledge opened heard => exact host.link.adds_acknowledge host.world fun _ _ => .of_none rfl
  | pollLink => exact host.link.adds_poll host.world fun _ _ => .of_none rfl
  | reset opened active =>
    rw [sendReset, if_pos opened]
    exact host.link.adds_reset host.world (fun _ => .of_none rfl) fun _ _ => .of_none rfl
  | enter goal => exact adds_enterBootloader host goal (.of_none rfl) (.of_none rfl) changed
  | readConsole bytes active => exact (World.Adds.refl _).notes _ fun _ _ => .of_none rfl
  | pollConsole opened active => exact host.console.adds_poll host.world fun _ => .of_none rfl
  | choose entry opened active =>
    exact host.console.adds_choose host.world entry (fun _ => .of_none rfl) fun _ _ => .of_none rfl
  | handBack | take => exact (World.Adds.refl _).record (.of_none rfl)
  | close =>
    have ended : World.Packetless host.world host.endWait.world :=
      (World.Adds.refl _).record (.of_none rfl)
    exact ended.record (.of_none rfl)

theorem Moves.packetless (moves : Moves hearer host host') :
    World.Packetless host.world host'.world := by
  induction moves with
  | refl => exact .refl _
  | then_move _ move ih => exact ih.trans move.packetless

theorem packetless_step (host : Host) (operation : Operation) :
    World.Packetless host.world (host.step operation).world := by
  by_cases heard : ∃ bytes, operation = .receive bytes
  · obtain ⟨bytes, rfl⟩ := heard
    have received : World.Packetless host.world (host.record (.received bytes)).world :=
      (World.Adds.refl _).record (.of_none rfl)
    exact received.trans (moves_receive host bytes).packetless
  · have moves : Moves none host (host.step operation) :=
      moves_step host operation fun bytes same => heard ⟨bytes, same⟩
    exact moves.packetless

end Host
end NcpHost
