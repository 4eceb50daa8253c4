import NcpHost.Proofs.History
import NcpHost.Proofs.Host.Answer
import NcpHost.Proofs.Host.Deed

/-! What the port is handed over to the console for: the user asks for it, or the answer to a
launch comes, or a reset is not answered. Nothing else makes the host turn to the
bootloader. -/
namespace NcpHost

namespace Journal

variable {wish : Option Mode} {front before : List Effect} {entry : Effect}

/-- A hand-over is the user's wish, or it comes of the answer to a launch or of a reset that was
not answered. -/
def Called (wish : Option Mode) (before : List Effect) (entry : Effect) : Prop :=
  ∀ goal, entry = .handedOver goal → wish = some goal.mode ∨
    (goal = .upload ∧ ∃ command response, response.commandId = Ezsp.launchBootloader ∧
      [.answered command response, .waitEnded] <:+ before) ∨
    [.noted (.probingAfterReset goal.mode), .waitEnded] <:+ before

theorem Called.behind
    (called : Called wish before entry) : Called wish (front ++ before) entry := by
  intro goal same
  rcases called goal same with asked | ⟨upload, command, response, launch, answered⟩ | failed
  · exact .inl asked
  · exact .inr (.inl ⟨upload, command, response, launch, answered.trans (List.suffix_append _ _)⟩)
  · exact .inr (.inr (failed.trans (List.suffix_append _ _)))

theorem Called.of_ne
    (other : ∀ goal, entry ≠ .handedOver goal) : Called wish before entry :=
  fun goal same => absurd same (other goal)

end Journal

namespace Host

variable {host host' : Host} {wish : Option Mode}

/-- The entries between the two are called for. -/
def Calls (wish : Option Mode) (host host' : Host) : Prop :=
  ∃ added, host'.world.journal = host.world.journal ++ added ∧ Lawful (Journal.Called wish) added

theorem Calls.trans {last : Host} (first : Calls wish host host') (second : Calls wish host' last) :
    Calls wish host last := by
  obtain ⟨front, journal, early⟩ := first
  obtain ⟨back, journal', late⟩ := second
  refine ⟨front ++ back, by rw [journal', journal, List.append_assoc], early.join ?_⟩
  exact fun before entry after split => (late before entry after split).behind

/-- The host does not turn to the bootloader. -/
abbrev Stays : World → World → Prop := World.Adds fun effect => ∀ goal, effect ≠ .handedOver goal

theorem calls_of_stays (stays : Stays host.world host'.world) : Calls wish host host' := by
  obtain ⟨added, journal, each⟩ := stays
  refine ⟨added, journal, ?_⟩
  rintro before entry after rfl
  exact .of_ne (each entry (by simp))

theorem stays_of_minor {world world' : World} (minor : World.Minor world world') :
    Stays world world' := by
  refine minor.mono fun effect own goal same => ?_
  subst same
  exact own

theorem calls_enterBootloader {goal : MenuEntry} {added : List Effect}
    (journal : host'.world.journal = host.world.journal ++ added)
    (each : ∀ entry ∈ added, ∀ goal, entry ≠ .handedOver goal)
    (called : Journal.Called wish (added ++ [.waitEnded]) (.handedOver goal)) :
    Calls wish host (host'.enterBootloader goal) := by
  have turned : Calls wish host (host'.turned goal) := by
    have shown : (host'.turned goal).world.journal =
        host'.world.journal ++ [.waitEnded] ++ [.handedOver goal] := rfl
    refine ⟨added ++ [.waitEnded] ++ [.handedOver goal], ?_, ?_⟩
    · rw [shown, journal]
      simp only [List.append_assoc]
    · refine Lawful.concat_iff.mpr ⟨Lawful.concat_iff.mpr ⟨?_, .of_ne (by simp)⟩, called⟩
      rintro before entry after rfl
      exact .of_ne (each entry (by simp))
  exact turned.trans (calls_of_stays (stays_of_minor (minor_enterBootloader host' goal)))

theorem calls_handleResetFailed : Calls wish host host.unanswered.handleResetFailed := by
  rcases host.unanswered.handleResetFailed_cases with ⟨-, goal, same⟩ | ⟨-, same⟩
  · let told : List Effect := [.noted (.resetUnanswered host.link.timeouts.resetAck),
      .noted (.probingAfterReset goal.mode)]
    have journal : (host.unanswered.note (.probingAfterReset goal.mode)).world.journal =
        host.world.journal ++ told := List.append_assoc _ _ _
    rw [same]
    refine calls_enterBootloader journal (by simp [told]) fun other same => ?_
    cases same
    exact .inr (.inr ⟨[.noted (.resetUnanswered host.link.timeouts.resetAck)], rfl⟩)
  · have unanswered : Stays host.world host.unanswered.world :=
      (World.Adds.refl _).record (by simp)
    rw [same]
    exact calls_of_stays ((unanswered.record (by simp)).record (by simp))

theorem Deed.calls (deed : Deed wish host host') : Calls wish host host' := by
  have nothing : Stays host.world host.world := .refl _
  cases deed with
  | launch response command later matching due =>
    have journal : (host.answeredBy response command later).world.journal =
        host.world.journal ++ [.waitEnded, .answered command response] := List.append_assoc _ _ _
    refine calls_enterBootloader journal (by simp) fun goal same => ?_
    cases same
    exact .inr (.inl ⟨rfl, command, response, due.1, [.waitEnded], rfl⟩)
  | request goal asked =>
    refine calls_enterBootloader (List.append_nil _).symm (by simp) fun other same => ?_
    cases same
    exact .inl asked
  | expire => exact calls_handleResetFailed
  | routine routine =>
    exact calls_of_stays (stays_of_minor (routine.adds.mono fun _ => Effect.IsRoutine.isMinor))
  | mode mode => exact calls_of_stays (stays_of_minor (minor_setMode host mode))
  | read bytes =>
    have received : Stays host.world (host.record (.received bytes)).world :=
      nothing.record (by simp)
    exact calls_of_stays (received.trans (stays_of_minor (minor_read host bytes)))
  | choose entry pending active shown =>
    exact calls_of_stays ((nothing.transmit (by simp)).trans
      (stays_of_minor (minor_chosen shown entry)))
  | probe => exact calls_of_stays (host.console.adds_poll host.world (by simp))
  | reset opened =>
    exact calls_of_stays ((nothing.transmit (by simp)).trans
      (stays_of_minor (minor_sendReset opened)))
  | settle | fireConsole => exact calls_of_stays nothing
  | handBack | take => exact calls_of_stays (nothing.record (by simp))
  | answer | ask | close => exact calls_of_stays ((nothing.record (by simp)).record (by simp))

theorem switchMode_of_wish {operation : Operation} {mode : Mode}
    (asked : operation.wish = some mode) : operation = .switchMode mode := by
  cases operation with
  | switchMode requested =>
    cases asked
    rfl
  | openPort | closePort | submit | receive | forceUpgrade | fireLink | fireConsole | poll | port =>
    cases asked

/-- What a step hands the port over for. -/
theorem calls_step (settings : Settings) (port : Port) (now : Nat) (history : List Operation)
    (operation : Operation) :
    let host := (ofSettings settings { port, now }).run history
    Calls operation.wish host (host.step operation) := by
  intro host
  have deeds : Deeds operation.wish host (host.step operation) :=
    deeds_step (sound_run settings port now history) (settled_run settings port now history)
      operation
  exact deeds.preserves (P := Calls operation.wish host)
    (fun _ _ deed calls => calls.trans deed.calls) (calls_of_stays (.refl _))

/-- Looking at the timers, the host turns to the bootloader for want of an answer only. -/
theorem called_of_poll (settings : Settings) (port : Port) (now : Nat) (history : List Operation)
    {before after : List Effect} {goal : MenuEntry} :
    let host := (ofSettings settings { port, now }).run history
    (host.step .poll).world.journal =
        host.world.journal ++ (before ++ .handedOver goal :: after) →
      [.noted (.probingAfterReset goal.mode), .waitEnded] <:+ before := by
  intro host split
  obtain ⟨added, more, calls⟩ := calls_step settings port now history .poll
  have same : added = before ++ .handedOver goal :: after :=
    List.append_cancel_left (more.symm.trans split)
  rcases calls before _ after same goal rfl with
    asked | ⟨-, command, response, -, answered⟩ | failed
  · cases asked
  · have silent (bytes : List UInt8) : Operation.poll ≠ .receive bytes := by simp
    obtain ⟨settled, grown, each⟩ := adds_step host silent
    have member : .answered command response ∈ before := answered.subset (by simp)
    have unanswering : Effect.Unanswering (.answered command response) := by
      apply each
      rw [List.append_cancel_left (grown.symm.trans more), same]
      exact List.mem_append_left _ member
    cases unanswering
  · exact failed

end Host
end NcpHost
