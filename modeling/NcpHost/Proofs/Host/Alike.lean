import NcpHost.Proofs.Host.Move

/-! Two hosts that go the same way. They differ in what the port was handed, in notes and
timers, and in the state of the link as far as a relation between the two allows; what
their user sees of them is the same, and stays so with every event that both handle. -/
namespace NcpHost

namespace Port

/-- Every write succeeds. -/
structure Reliable (port : Port) : Prop where
  plugged : port.plugged = true
  faultless : ∀ fault ∈ port.writeFaults, fault = .pass

variable {port : Port}

instance : Decidable port.Reliable :=
  decidable_of_iff (port.plugged = true ∧ ∀ fault ∈ port.writeFaults, fault = .pass)
    ⟨fun ⟨plugged, faultless⟩ => ⟨plugged, faultless⟩,
      fun reliable => ⟨reliable.plugged, reliable.faultless⟩⟩

theorem Reliable.write (reliable : port.Reliable) (data : List UInt8) :
    (port.write data).1 = .accepted data.length ∧ (port.write data).2.Reliable := by
  have next : port.writeFaults.head?.getD .pass = .pass := by
    cases faults : port.writeFaults with
    | nil => rfl
    | cons fault later => exact reliable.faultless fault (by simp [faults])
  simp only [Port.write, next, put, reliable.plugged, if_true, true_and]
  exact ⟨rfl, fun fault member => reliable.faultless fault (List.mem_of_mem_tail member)⟩

end Port

namespace World

variable (world : World)

@[simp] theorem events_record (effect : Effect) :
    (world.record effect).events = world.events ++ effect.event?.toList := by
  cases told : effect.event? <;> simp [events, told]

theorem Adds.events {before after : World}
    (silent : Adds (fun effect => effect.event? = none) before after) :
    after.events = before.events :=
  silent.filterMap fun _ => id

@[simp] theorem events_transmit (what : Transmission) :
    (world.transmit what).2.events = world.events := by
  simp [events, Effect.event?]

theorem transmit_reliable (reliable : world.port.Reliable) (what : Transmission) :
    (world.transmit what).1 = .ok () ∧ (world.transmit what).2.port.Reliable := by
  obtain ⟨accepted, still⟩ := reliable.write what.bytes
  refine ⟨?_, still⟩
  simp [transmit, accepted, WriteOutcome.complete]

end World

namespace Link

/-- A DATA frame that the port takes. -/
structure Sends (link : Link) (world : World) (payload : List UInt8)
    (sent : Except PortError Unit × Link × World) : Prop where
  taken : sent.1 = .ok ()
  endpoint : sent.2.1.endpoint = (link.endpoint.data payload).2
  events : sent.2.2.events = world.events
  port : sent.2.2.port.Reliable

theorem send_reliable (link : Link) {world : World} (reliable : world.port.Reliable)
    (payload : List UInt8) : link.Sends world payload (link.send world payload) := by
  have quiet : (world.notes (Endpoint.oversized payload)).events = world.events :=
    World.Adds.events ((World.Adds.refl world).notes _ fun _ _ => rfl)
  have taken := (world.notes (Endpoint.oversized payload)).transmit_reliable reliable
    (.frame (link.endpoint.data payload).1)
  rw [send_eq]
  exact ⟨taken.1, rfl, (World.events_transmit _ _).trans quiet, taken.2⟩

end Link

namespace Bootloader.Console

variable {console : Console} {world : World}

theorem choose_of_prompt (prompted : console.stage = .promptSeen)
    (reliable : world.port.Reliable) (entry : MenuEntry) :
    console.choose world entry =
      match entry with
      | .run => (.ok (), console.detach, (world.transmit (.choice .run)).2.note .runChosen)
      | .upload => (.ok (), { console with stage := .awaitingReceiver, buffer := [] },
          (world.transmit (.choice .upload)).2.note .uploadChosen) := by
  obtain ⟨result, after, outcome⟩ : ∃ result after,
      world.transmit (.choice entry) = (result, after) := ⟨_, _, rfl⟩
  have taken := (world.transmit_reliable reliable (.choice entry)).1
  rw [outcome] at taken
  cases taken
  cases entry with
  | run | upload => simp [choose, prompted, outcome]

theorem choose_of_no_prompt (other : console.stage ≠ .promptSeen) (entry : MenuEntry) :
    console.choose world entry = (.error (.noPrompt console.stage), console, world) :=
  if_neg other

end Bootloader.Console

/-- The numbers of one end in two runs. -/
def Endpoint.SameNumbers (endpoint other : Endpoint) : Prop := other.sequence = endpoint.sequence

namespace Host

/-- Two hosts that differ in nothing but notes, timers, what the port was handed, and the
state of the link, on which `L` tells. -/
structure Alike (L : Endpoint → Endpoint → Prop) (split whole : Host) : Prop where
  events : whole.world.events = split.world.events
  queue : whole.queue = split.queue
  waiting : whole.waiting = split.waiting
  mode : whole.mode = split.mode
  active : whole.active = split.active
  opened : whole.opened = split.opened
  nextSequence : whole.nextSequence = split.nextSequence
  launchPending : whole.launchPending = split.launchPending
  pendingEntry : whole.pendingEntry = split.pendingEntry
  stage : whole.console.stage = split.console.stage
  version : whole.console.version = split.console.version
  link : L split.link.endpoint whole.link.endpoint
  carried : split.waiting = true → split.link.connected = true
  splitPort : split.world.port.Reliable
  wholePort : whole.world.port.Reliable

namespace Alike

variable {L : Endpoint → Endpoint → Prop} {split whole : Host}

theorem refl {host : Host} (reliable : host.world.port.Reliable)
    (carried : host.waiting = true → host.link.connected = true)
    (related : L host.link.endpoint host.link.endpoint) : Alike L host host :=
  ⟨rfl, rfl, rfl, rfl, rfl, rfl, rfl, rfl, rfl, rfl, rfl, related, carried, reliable, reliable⟩

/-- Whatever was done to the worlds, as long as nothing was reported. -/
theorem worlds (alike : Alike L split whole) {one other : World}
    (silent : one.events = split.world.events) (also : other.events = whole.world.events)
    (reliable : one.port.Reliable) (too : other.port.Reliable) :
    Alike L { split with world := one } { whole with world := other } :=
  { alike with
    events := by rw [silent, also, alike.events]
    splitPort := reliable
    wholePort := too }

theorem note (alike : Alike L split whole) (note : Note) :
    Alike L (split.note note) (whole.note note) :=
  alike.worlds (by simp [World.note, Effect.event?]) (by simp [World.note, Effect.event?])
    alike.splitPort alike.wholePort

theorem report (alike : Alike L split whole) (event : Event) :
    Alike L (split.report event) (whole.report event) :=
  { alike with events := by simp [Host.report, World.report, alike.events] }

theorem record (alike : Alike L split whole) {effect : Effect} (silent : effect.event? = none) :
    Alike L (split.record effect) (whole.record effect) :=
  { alike with events := by simp [Host.record, alike.events, silent] }

theorem setMode (alike : Alike L split whole) (mode : Mode) :
    Alike L (split.setMode mode) (whole.setMode mode) := by
  unfold Host.setMode
  rw [alike.mode]
  split
  · exact alike
  · have changed : Alike L { split with mode } { whole with mode } := { alike with mode := rfl }
    exact changed.report _

theorem endWait (alike : Alike L split whole) : Alike L split.endWait whole.endWait :=
  { alike with events := by simp [Host.endWait, Link.endWait, alike.events] }

theorem attempt {undertaking : Undertaking} {result result' : Except HostError Unit × Host}
    (alike : Alike L result.2 result'.2) :
    Alike L (attempt undertaking result) (attempt undertaking result') := by
  have quiet (host : Host) (note : Note) : (host.note note).world.events = host.world.events := by
    simp [Host.note, World.note, Effect.event?]
  obtain ⟨_ | _, split⟩ := result <;> obtain ⟨_ | _, whole⟩ := result'
  · exact alike.worlds (quiet _ _) (quiet _ _) alike.splitPort alike.wholePort
  · exact alike.worlds (quiet _ _) rfl alike.splitPort alike.wholePort
  · exact alike.worlds rfl (quiet _ _) alike.splitPort alike.wholePort
  · exact alike

theorem enterBootloader (alike : Alike L split whole) (goal : MenuEntry) :
    Alike L (split.enterBootloader goal) (whole.enterBootloader goal) := by
  have entered : Alike L
      { split.endWait.record (.handedOver goal) with
        active := .console, waiting := false, pendingEntry := some goal }
      { whole.endWait.record (.handedOver goal) with
        active := .console, waiting := false, pendingEntry := some goal } :=
    { alike.endWait.record rfl with
      active := rfl, waiting := rfl, pendingEntry := rfl, carried := by simp }
  have told : Alike L _ _ := entered.setMode goal.mode
  unfold Host.enterBootloader
  dsimp only
  split
  · exact { told with stage := rfl, version := told.version }
  · exact { entered with stage := rfl, version := entered.version }

end Alike

/-! Events of the console. -/
namespace Alike

variable {L : Endpoint → Endpoint → Prop} {split whole : Host}

theorem choose (alike : Alike L split whole) (entry : MenuEntry) :
    (whole.console.choose whole.world entry).1 = (split.console.choose split.world entry).1 ∧
      Alike L
        { split with
          console := (split.console.choose split.world entry).2.1
          world := (split.console.choose split.world entry).2.2 }
        { whole with
          console := (whole.console.choose whole.world entry).2.1
          world := (whole.console.choose whole.world entry).2.2 } := by
  by_cases prompted : split.console.stage = .promptSeen
  · have also : whole.console.stage = .promptSeen := alike.stage.trans prompted
    have one := split.world.transmit_reliable alike.splitPort (.choice entry)
    have other := whole.world.transmit_reliable alike.wholePort (.choice entry)
    rw [Bootloader.Console.choose_of_prompt prompted alike.splitPort,
      Bootloader.Console.choose_of_prompt also alike.wholePort]
    cases entry with
    | run | upload =>
      exact ⟨rfl, { alike with
        events := by simp [World.note, Effect.event?, alike.events]
        stage := rfl
        version := alike.version
        splitPort := one.2
        wholePort := other.2 }⟩
  · have also : whole.console.stage ≠ .promptSeen := alike.stage ▸ prompted
    rw [Bootloader.Console.choose_of_no_prompt prompted,
      Bootloader.Console.choose_of_no_prompt also, alike.stage]
    exact ⟨rfl, alike⟩

variable (alike : Alike Endpoint.SameNumbers split whole)
include alike

theorem sendReset : Alike Endpoint.SameNumbers split.sendReset.2 whole.sendReset.2 := by
  unfold Host.sendReset
  by_cases opened : split.opened = true
  · rw [if_pos opened, if_pos (alike.opened.trans opened)]
    have one := split.world.transmit_reliable alike.splitPort (.frame .reset)
    have other := whole.world.transmit_reliable alike.wholePort (.frame .reset)
    rw [Link.reset_eq, Link.reset_eq, one.1, other.1]
    exact { alike with
      events := by simp [World.note, Effect.event?, Except.isOk, Except.toBool, alike.events]
      waiting := rfl
      link := rfl
      carried := by simp
      splitPort := one.2
      wholePort := other.2 }
  · rw [if_neg opened, if_neg (alike.opened ▸ opened)]
    exact alike

theorem leaveBootloader :
    Alike Endpoint.SameNumbers split.leaveBootloader whole.leaveBootloader := by
  obtain ⟨same, chosen⟩ := alike.choose .run
  unfold Host.leaveBootloader
  by_cases opened : split.opened = true
  · rw [if_pos opened, if_pos (alike.opened.trans opened)]
    dsimp only
    rw [same]
    split
    · exact chosen.note _
    · have silent : Effect.handedBack.event? = none := rfl
      have back : Alike Endpoint.SameNumbers _ _ := chosen.record silent
      refine Alike.attempt (Alike.sendReset (Alike.setMode ?_ _))
      exact { back with active := rfl, stage := rfl }
  · rw [if_neg opened, if_neg (alike.opened ▸ opened)]
    exact alike

theorem startUpload : Alike Endpoint.SameNumbers split.startUpload whole.startUpload := by
  obtain ⟨same, chosen⟩ := alike.choose .upload
  unfold Host.startUpload
  by_cases opened : split.opened = true
  · rw [if_pos opened, if_pos (alike.opened.trans opened)]
    dsimp only
    rw [same]
    split
    · exact chosen.note _
    · exact chosen.setMode _
  · rw [if_neg opened, if_neg (alike.opened ▸ opened)]
    exact alike

theorem handleConsoleEvent (event : Bootloader.ConsoleEvent) :
    Alike Endpoint.SameNumbers (split.handleConsoleEvent event)
      (whole.handleConsoleEvent event) := by
  cases event with
  | transferReady => exact alike.report _
  | promptDetected =>
    have reported : Alike Endpoint.SameNumbers
        (split.report (.promptSeen split.console.version))
        (whole.report (.promptSeen whole.console.version)) := by
      rw [alike.version]
      exact alike.report _
    have shown : Alike Endpoint.SameNumbers
        { split.report (.promptSeen split.console.version) with pendingEntry := none }
        { whole.report (.promptSeen whole.console.version) with pendingEntry := none } :=
      { reported with pendingEntry := rfl }
    unfold Host.handleConsoleEvent
    dsimp only
    rw [reported.pendingEntry]
    split
    · exact shown.leaveBootloader
    · exact shown.startUpload
    · exact shown

theorem foldl_handleConsoleEvent (events : List Bootloader.ConsoleEvent) :
    Alike Endpoint.SameNumbers (events.foldl Host.handleConsoleEvent split)
      (events.foldl Host.handleConsoleEvent whole) := by
  induction events generalizing split whole with
  | nil => exact alike
  | cons event later ih => exact ih (alike.handleConsoleEvent event)

end Alike

end Host
end NcpHost
