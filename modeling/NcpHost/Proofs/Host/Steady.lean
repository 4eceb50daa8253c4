import NcpHost.Proofs.Host.Awake
import NcpHost.Proofs.Host.Routine

/-! What the journal tells of the modes and of the resets, and what leaves both alone: most
of what the host does. The host counts its resets too, but its count wraps, so what is said
of them here goes by the journal. -/
namespace NcpHost

namespace Effect

/-- The mode that a change of mode leads to. -/
def reached? : Effect → Option Mode
  | .reported (.modeChanged _ new) => some new
  | _ => none

/-- Entries that tell of no mode and of no reset. -/
def IsSteady : Effect → Prop
  | .reported (.modeChanged ..) | .sent (.frame .reset) _ => False
  | _ => True

variable {effect : Effect}

theorem IsSteady.reached? (isSteady : effect.IsSteady) : effect.reached? = none := by
  unfold Effect.reached?
  split
  · exact isSteady.elim
  · rfl

/-- Only an entry for a transmission shows that the port was handed one. -/
theorem eq_sent_of_transmission? {what : Transmission} (handed : effect.transmission? = some what) :
    ∃ outcome, effect = .sent what outcome := by
  cases effect with
  | sent other outcome =>
    obtain rfl := Option.some.inj handed
    exact ⟨outcome, rfl⟩
  | received | reported | noted | queued | answered | handedOver | handedBack | waitEnded =>
    cases handed

theorem IsSteady.transmission?_ne (isSteady : effect.IsSteady) :
    effect.transmission? ≠ some (.frame .reset) := by
  intro reset
  obtain ⟨outcome, rfl⟩ := eq_sent_of_transmission? reset
  exact isSteady

theorem IsRoutine.isSteady (isRoutine : effect.IsRoutine) : effect.IsSteady := by
  unfold IsSteady
  split
  · exact isRoutine.1 rfl
  · exact isRoutine
  · trivial

end Effect

namespace Journal

/-- Where the last change of mode led to; no mode is known before the first. -/
def mode (journal : List Effect) : Mode :=
  (journal.filterMap Effect.reached?).getLast?.getD .unknown

/-- Resets handed to the port, whatever came of it. -/
def attempts (journal : List Effect) : Nat :=
  journal.countP fun entry => entry.transmission? = some (.frame .reset)

/-- A change of mode starts where the last one ended, and leads to another mode that is
known; an upload is not entered on the way back to the application, unless the count of
resets has wrapped. -/
def Succeeds (before : List Effect) (entry : Effect) : Prop :=
  ∀ old new, entry = .reported (.modeChanged old new) →
    old = mode before ∧ old ≠ new ∧ new ≠ .unknown ∧
      (new = .upgrading → attempts before < UInt32.size → old = .unknown ∨ old = .application)

theorem succeeds_of_none {entry : Effect} (none : entry.reached? = none)
    (before : List Effect) : Succeeds before entry := by
  rintro old new rfl
  cases none

theorem attempts_eq_of_adds {before after : World}
    (adds : World.Adds (fun effect => effect.transmission? ≠ some (.frame .reset)) before after) :
    attempts after.journal = attempts before.journal :=
  adds.countP fun _ other => decide_eq_false other

theorem attempts_record (world : World) (effect : Effect)
    (other : effect.transmission? ≠ some (.frame .reset)) :
    attempts (world.record effect).journal = attempts world.journal :=
  attempts_eq_of_adds ((World.Adds.refl world).record other)

end Journal

namespace Host

variable {host host' : Host}

/-- The journal tells of the modes, one after the other. -/
structure Chained (host : Host) : Prop where
  mode : Journal.mode host.world.journal = host.mode
  lawful : Lawful Journal.Succeeds host.world.journal

/-- Entries that tell of no mode. -/
abbrev Modeless : World → World → Prop := World.Adds fun effect => effect.reached? = none

theorem modeless_endWait (host : Host) (effect : Effect) (none : effect.reached? = none) :
    Modeless host.world (host.endWait.record effect).world := by
  have ended : Modeless host.world host.endWait.world := (World.Adds.refl _).record rfl
  exact ended.record none

theorem attempts_endWait (host : Host) (effect : Effect)
    (other : effect.transmission? ≠ some (.frame .reset)) :
    Journal.attempts (host.endWait.record effect).world.journal =
      Journal.attempts host.world.journal := by
  have ended : Journal.attempts host.endWait.world.journal =
      Journal.attempts host.world.journal := Journal.attempts_record host.world .waitEnded nofun
  exact (Journal.attempts_record host.endWait.world effect other).trans ended

theorem Chained.still (chained : Chained host) (mode : host'.mode = host.mode)
    (modeless : Modeless host.world host'.world) : Chained host' := by
  refine ⟨?_, ?_⟩
  · rw [Journal.mode, modeless.filterMap fun _ none => none, mode]
    exact chained.mode
  · obtain ⟨added, journal, each⟩ := modeless
    rw [journal]
    exact chained.lawful.append fun effect member => Journal.succeeds_of_none (each effect member)

/-- The upload may be entered: the host is not on the way back to the application. This is
not promised any more once the count of resets has wrapped. -/
def Fits (host : Host) : Prop :=
  Journal.attempts host.world.journal < UInt32.size → host.mode ≠ .leaving

theorem Chained.setMode (chained : Chained host) {mode : Mode} (known : mode ≠ .unknown)
    (upgrade : mode = .upgrading → host.Fits) : Chained (host.setMode mode) := by
  rcases host.setMode_cases mode with ⟨-, same⟩ | ⟨differs, moved⟩
  · rw [same]
    exact chained
  · have upload : mode = .upgrading → Journal.attempts host.world.journal < UInt32.size →
        host.mode = .unknown ∨ host.mode = .application := by
      intro same whole
      have other := upgrade same whole
      subst same
      cases before : host.mode <;> simp_all
    rw [moved]
    refine ⟨?_, Lawful.concat_iff.mpr ⟨chained.lawful, ?_⟩⟩
    · simp [Journal.mode, Host.report, World.report, Effect.reached?]
    · rintro old new same
      cases same
      exact ⟨chained.mode.symm, differs, known, upload⟩

/-- The host's own count of its resets is the true one as far as 32 bits go. -/
def Counts (host : Host) : Prop :=
  host.resetAttempts = .ofNat (Journal.attempts host.world.journal)

namespace Counts

theorem still (counts : Counts host) (same : host'.resetAttempts = host.resetAttempts)
    (attempts : Journal.attempts host'.world.journal = Journal.attempts host.world.journal) :
    Counts host' := by
  rw [Counts, same, attempts]
  exact counts

/-- As long as the count has not wrapped, it tells whether there was a second reset. -/
theorem le_one (counts : Counts host) (few : host.resetAttempts ≤ 1)
    (whole : Journal.attempts host.world.journal < UInt32.size) :
    Journal.attempts host.world.journal ≤ 1 := by
  rw [counts, UInt32.le_iff_toNat_le, UInt32.toNat_ofNat_of_lt' whole] at few
  exact few

/-- A count beyond one is no artefact of its wrapping. -/
theorem two_le (counts : Counts host) (many : 1 < host.resetAttempts) :
    2 ≤ Journal.attempts host.world.journal := by
  rw [counts, UInt32.lt_iff_toNat_lt, UInt32.toNat_ofNat'] at many
  exact Nat.lt_of_lt_of_le many (Nat.mod_le _ _)

end Counts

/-- What decides about the mode is as it was; the timer of the link runs on, or for a frame
that an up link sent. -/
structure Steady (host host' : Host) : Prop where
  mode : host'.mode = host.mode
  opened : host'.opened = host.opened
  active : host'.active = host.active
  pendingEntry : host'.pendingEntry = host.pendingEntry
  resetAttempts : host'.resetAttempts = host.resetAttempts
  connected : host'.link.connected = host.link.connected
  running : host'.link.timer.running = true →
    host.link.timer.running = true ∨ host.link.connected = true
  adds : World.Adds Effect.IsSteady host.world host'.world

namespace Steady

theorem modeless (steady : Steady host host') : Modeless host.world host'.world :=
  steady.adds.mono fun _ => Effect.IsSteady.reached?

theorem attempts (steady : Steady host host') :
    Journal.attempts host'.world.journal = Journal.attempts host.world.journal :=
  Journal.attempts_eq_of_adds (steady.adds.mono fun _ => Effect.IsSteady.transmission?_ne)

theorem refl (host : Host) : Steady host host :=
  ⟨rfl, rfl, rfl, rfl, rfl, rfl, .inl, .refl _⟩

theorem trans {last : Host} (first : Steady host host') (second : Steady host' last) :
    Steady host last where
  mode := second.mode.trans first.mode
  opened := second.opened.trans first.opened
  active := second.active.trans first.active
  pendingEntry := second.pendingEntry.trans first.pendingEntry
  resetAttempts := second.resetAttempts.trans first.resetAttempts
  connected := second.connected.trans first.connected
  running running := (second.running running).elim first.running
    fun up => .inr (first.connected ▸ up)
  adds := first.adds.trans second.adds

theorem record (steady : Steady host host') {effect : Effect} (isSteady : effect.IsSteady) :
    Steady host (host'.record effect) :=
  steady.trans ⟨rfl, rfl, rfl, rfl, rfl, rfl, .inl, (World.Adds.refl _).record isSteady⟩

theorem note (steady : Steady host host') (note : Note) : Steady host (host'.note note) :=
  steady.record (show (Effect.noted note).IsSteady from trivial)

theorem attempt {undertaking : Undertaking} {result : Except HostError Unit × Host}
    (steady : Steady host result.2) : Steady host (attempt undertaking result) := by
  rcases attempt_cases undertaking result with same | ⟨error, same⟩
  · rw [same]
    exact steady
  · rw [same]
    exact steady.note _

theorem polled (host : Host) : Steady host host.polled := by
  have running : (host.link.poll host.world).2.1.timer.running = true →
      host.link.timer.running = true := by
    have stands := standing_pollLink host
    rcases stands with same | stopped
    · exact fun runs => (congrArg Standing.running same).symm.trans runs
    · intro runs
      exact absurd ((congrArg Standing.running stopped).symm.trans runs) Bool.false_ne_true
  refine ⟨rfl, rfl, rfl, rfl, rfl, ?_, fun runs => .inl (running runs), ?_⟩
  · exact congrArg Endpoint.connected (Link.poll_endpoint host.link host.world)
  · exact host.link.adds_poll host.world fun _ _ => trivial

theorem pollConsole (host : Host) : Steady host host.pollConsole := by
  have probed : Steady host host.probed :=
    ⟨rfl, rfl, rfl, rfl, rfl, rfl, .inl, host.console.adds_poll host.world fun _ => trivial⟩
  rcases host.pollConsole_cases with same | ⟨-, -, same | ⟨error, same⟩⟩
  · rw [same]
    exact refl host
  · rw [same]
    exact probed
  · rw [same]
    exact probed.note _

end Steady

theorem Fits.steady (fits : Fits host) (steady : Steady host host') : Fits host' := by
  rw [Fits, steady.attempts, steady.mode]
  exact fits

theorem Routine.steady (routine : Routine host host') : Steady host host' where
  mode := routine.mode
  opened := routine.opened
  active := routine.active
  pendingEntry := routine.pendingEntry
  resetAttempts := routine.resetAttempts
  connected := routine.connected
  running := routine.running
  adds := routine.adds.mono fun _ => Effect.IsRoutine.isSteady

/-- What a payload does: the answer to the launch hands the port to the console, for the
upload, and all else leaves the mode alone. -/
theorem payload_steady_or_enters (host : Host) (payload : List UInt8) :
    Steady host (host.handlePayload payload) ∨
      host.waiting = true ∧ ∃ before, Steady host before ∧
        host.handlePayload payload = before.enterBootloader .upload := by
  rcases payload_routine_or_completes host payload with
    routine | ⟨inFlight, heard, response, command, later, routine, -, completes⟩
  · exact .inl routine.steady
  · have answered : Steady host (heard.answeredBy response command later) :=
      routine.steady.trans ⟨rfl, rfl, rfl, rfl, rfl, rfl, by intro runs; contradiction,
        ((World.Adds.refl _).record trivial).record trivial⟩
    rw [completes, complete_eq]
    split
    · refine .inr ⟨inFlight, _, ?_, rfl⟩
      exact answered.trans ⟨rfl, rfl, rfl, rfl, rfl, rfl, .inl, .refl _⟩
    · exact .inl (answered.trans (Routine.sendNext _).attempt.steady)

end Host
end NcpHost
