import NcpHost.Proofs.Host.HandOver

/-! What comes of resets that nobody answers. Each of them that the port took whole is good
for one failure: the first makes the host look for the bootloader, once and for all; those
after it tell that the adapter is silent. Whatever goes wrong on the line, a host whose
adapter is dead comes to rest, for want of resets to fail. -/
namespace NcpHost

/-- The host turns to the bootloader since nothing answered its reset. -/
def Effect.isTurn : Effect → Bool
  | .noted (.probingAfterReset _) => true
  | _ => false

def Effect.isSilence (effect : Effect) : Bool := effect = .reported .adapterSilent

namespace Journal

/-- Resets that the port accepted whole. -/
def delivered (journal : List Effect) : Nat :=
  journal.countP fun entry => entry.delivered? = some (.frame .reset)

def turns (journal : List Effect) : Nat := journal.countP Effect.isTurn

def silences (journal : List Effect) : Nat := journal.countP Effect.isSilence

/-- Right after the wait for the answer to the first reset, and never later unless the count
of resets has wrapped, the host turns to the bootloader; that the adapter is silent it tells
after a second attempt. -/
structure Warranted (before : List Effect) (entry : Effect) : Prop where
  turn : ∀ target, entry = .noted (.probingAfterReset target) →
    (attempts before < UInt32.size → attempts before = 1) ∧
    (∃ front ms, before = front ++ [.noted (.resetUnanswered ms)]) ∧
    ∃ goal : MenuEntry, target = goal.mode
  silence : entry = .reported .adapterSilent → 2 ≤ attempts before

/-- Every failure in the journal is warranted, and whoever turns to the bootloader goes there
at once. -/
structure Told (journal : List Effect) : Prop where
  lawful : Lawful Warranted journal
  turned : ∀ goal : MenuEntry,
    Followed (fun _ entry => entry = .noted (.probingAfterReset goal.mode))
      (fun _ => [.waitEnded, .handedOver goal]) journal

theorem Told.append {journal added : List Effect} (told : Told journal)
    (each : ∀ entry ∈ added, entry.isTurn = false ∧ entry.isSilence = false) :
    Told (journal ++ added) where
  lawful := by
    apply told.lawful.append
    intro entry member before
    obtain ⟨noTurn, noSilence⟩ := each entry member
    constructor
    · rintro target rfl
      cases noTurn
    · intro silence
      exact absurd silence (of_decide_eq_false noSilence)
  turned goal := by
    apply (told.turned goal).append_of_no_sign
    rintro entry member before rfl
    cases (each _ member).1

theorem Told.turn {journal added : List Effect} (told : Told journal) (goal : MenuEntry)
    (warranted : Warranted journal (.noted (.probingAfterReset goal.mode)))
    (each : ∀ entry ∈ added, entry.isTurn = false ∧ entry.isSilence = false)
    (comes : [.waitEnded, .handedOver goal] <+: added) :
    Told (journal ++ .noted (.probingAfterReset goal.mode) :: added) where
  lawful := by
    have noted := Lawful.concat_iff.mpr ⟨told.lawful, warranted⟩
    rw [List.append_cons]
    apply noted.append
    intro entry member before
    obtain ⟨noTurn, noSilence⟩ := each entry member
    constructor
    · rintro target rfl
      cases noTurn
    · intro silence
      exact absurd silence (of_decide_eq_false noSilence)
  turned other := by
    apply (told.turned other).append_cons
    · intro same
      obtain rfl : goal = other := by cases goal <;> cases other <;> simp_all [MenuEntry.mode]
      exact comes
    · rintro entry member before rfl
      cases (each _ member).1

theorem Told.silence {journal : List Effect} (told : Told journal)
    (later : 2 ≤ attempts journal) : Told (journal ++ [.reported .adapterSilent]) where
  lawful := Lawful.concat_iff.mpr ⟨told.lawful, by simp, fun _ => later⟩
  turned goal := (told.turned goal).append_of_no_sign (by simp)

end Journal

/-- Entries that tell neither of a reset nor of one that failed. -/
def Effect.IsResetless : Effect → Prop
  | .sent (.frame .reset) _ | .noted (.probingAfterReset _) | .reported .adapterSilent => False
  | _ => True

theorem Effect.IsMinor.isResetless {effect : Effect} (minor : effect.IsMinor) :
    effect.IsResetless := by
  unfold IsResetless
  split
  · exact minor
  · exact minor
  · exact minor rfl
  · trivial

namespace Effect.IsResetless

variable {effect : Effect} (resetless : effect.IsResetless)
include resetless

theorem transmission?_ne : effect.transmission? ≠ some (.frame .reset) := by
  intro reset
  obtain ⟨outcome, rfl⟩ := eq_sent_of_transmission? reset
  exact resetless

theorem delivered?_ne : effect.delivered? ≠ some (.frame .reset) := by
  intro taken
  apply resetless.transmission?_ne
  cases effect with
  | sent what outcome =>
    simp only [delivered?] at taken
    split at taken
    · exact taken
    · cases taken
  | received | reported | noted | queued | answered | handedOver | handedBack | waitEnded =>
    cases taken

theorem isTurn_eq : effect.isTurn = false := by
  unfold isTurn
  split
  · exact resetless.elim
  · rfl

theorem isSilence_eq : effect.isSilence = false := by
  apply decide_eq_false
  rintro rfl
  exact resetless

end Effect.IsResetless

namespace Journal

variable {before after : World} (adds : World.Adds Effect.IsResetless before after)
include adds

theorem attempts_eq : attempts after.journal = attempts before.journal :=
  attempts_eq_of_adds (adds.mono fun _ => Effect.IsResetless.transmission?_ne)

theorem delivered_eq : delivered after.journal = delivered before.journal :=
  adds.countP fun _ own => decide_eq_false own.delivered?_ne

theorem turns_eq : turns after.journal = turns before.journal :=
  adds.countP fun _ own => own.isTurn_eq

theorem silences_eq : silences after.journal = silences before.journal :=
  adds.countP fun _ own => own.isSilence_eq

theorem Told.still (told : Told before.journal) : Told after.journal := by
  obtain ⟨added, journal, each⟩ := adds
  rw [journal]
  exact told.append fun entry member =>
    ⟨(each entry member).isTurn_eq, (each entry member).isSilence_eq⟩

end Journal

namespace Host

variable {host host' : Host}

/-- The host waits for the answer to a reset. -/
def Shaking (host : Host) : Prop :=
  host.link.timer.running = true ∧ host.link.connected = false

/-- The failures so far are paid for, and one more that a wait may come to is. -/
structure Accounted (host : Host) : Prop where
  counts : Counts host
  paid : Journal.turns host.world.journal + Journal.silences host.world.journal ≤
    Journal.delivered host.world.journal
  owed : host.Shaking →
    Journal.turns host.world.journal + Journal.silences host.world.journal <
      Journal.delivered host.world.journal
  once : Journal.attempts host.world.journal < UInt32.size → Journal.turns host.world.journal ≤ 1
  early : Journal.attempts host.world.journal = 0 → Journal.turns host.world.journal = 0
  begun : host.Shaking → Journal.attempts host.world.journal ≠ 0
  first : host.Shaking → Journal.attempts host.world.journal ≤ 1 →
    Journal.turns host.world.journal = 0
  told : Journal.Told host.world.journal

/-- No reset was tried and none has failed; if the host waits for the answer to one now, it
did before. -/
structure Resetless (host host' : Host) : Prop where
  attempts : host'.resetAttempts = host.resetAttempts
  shaking : host'.Shaking → host.Shaking
  adds : World.Adds Effect.IsResetless host.world host'.world

theorem Accounted.still (accounted : Accounted host) (resetless : Resetless host host') :
    Accounted host' := by
  obtain ⟨same, shook, adds⟩ := resetless
  have attempts := Journal.attempts_eq adds
  have delivered := Journal.delivered_eq adds
  have turns := Journal.turns_eq adds
  have silences := Journal.silences_eq adds
  constructor
  · exact accounted.counts.still same attempts
  · rw [turns, silences, delivered]
    exact accounted.paid
  · intro shaking
    rw [turns, silences, delivered]
    exact accounted.owed (shook shaking)
  · rw [turns, attempts]
    exact accounted.once
  · rw [turns, attempts]
    exact accounted.early
  · intro shaking
    rw [attempts]
    exact accounted.begun (shook shaking)
  · intro shaking
    rw [turns, attempts]
    exact accounted.first (shook shaking)
  · exact Journal.Told.still adds accounted.told

theorem Resetless.of_minor (attempts : host'.resetAttempts = host.resetAttempts)
    (shaking : host'.Shaking → host.Shaking) (minor : World.Minor host.world host'.world) :
    Resetless host host' :=
  ⟨attempts, shaking, minor.mono fun _ => Effect.IsMinor.isResetless⟩

/-- Only the wait for an answer to a reset can turn into one. -/
theorem Routine.shaking (routine : Routine host host') (shaking : host'.Shaking) :
    host.Shaking := by
  obtain ⟨running, down⟩ := shaking
  rw [routine.connected] at down
  refine ⟨(routine.running running).resolve_right ?_, down⟩
  simp [down]

theorem shaking_read {bytes : List UInt8} (shaking : (host.read bytes).Shaking) :
    host.Shaking := by
  obtain ⟨running, down⟩ := shaking
  cases active : host.active with
  | console =>
    rw [link_read active] at running down
    exact ⟨running, down⟩
  | link =>
    rw [read_link active] at running down
    exact Link.shaking_of_receive running down

theorem not_shaking_enterBootloader (host : Host) (goal : MenuEntry) :
    ¬ (host.enterBootloader goal).Shaking := by
  rintro ⟨running, -⟩
  rw [enterBootloader_shape] at running
  cases running

theorem resetless_enterBootloader (host : Host) (goal : MenuEntry) :
    Resetless host (host.enterBootloader goal) := by
  refine ⟨?_, fun shaking => absurd shaking (not_shaking_enterBootloader host goal), ?_⟩
  · rw [enterBootloader_shape]
    rfl
  · have turned : World.Adds Effect.IsResetless host.world (host.turned goal).world :=
      ((World.Adds.refl _).record (by trivial)).record (by trivial)
    exact turned.trans ((minor_enterBootloader host goal).mono fun _ => Effect.IsMinor.isResetless)

/-- A reset that the port took whole is good for one failure. -/
theorem Accounted.reset (accounted : Accounted host) (opened : host.opened = true) :
    Accounted host.sendReset.2 := by
  obtain ⟨counts, paid, owed, once, early, begun, first, told⟩ := accounted
  let sent := host.world.transmit (.frame .reset)
  have minor := (minor_sendReset opened).mono fun _ => Effect.IsMinor.isResetless
  have more := attempts_sendReset opened
  have taken : Journal.delivered host.sendReset.2.world.journal =
      Journal.delivered host.world.journal + if sent.1.isOk then 1 else 0 := by
    rw [Journal.delivered_eq minor]
    simp [Journal.delivered, Effect.delivered?, sent, World.transmit, List.countP_singleton]
  have turns : Journal.turns host.sendReset.2.world.journal =
      Journal.turns host.world.journal := by
    rw [Journal.turns_eq minor]
    simp [Journal.turns, Effect.isTurn]
  have silences : Journal.silences host.sendReset.2.world.journal =
      Journal.silences host.world.journal := by
    rw [Journal.silences_eq minor]
    simp [Journal.silences, Effect.isSilence]
  have armed : host.sendReset.2.Shaking → sent.1.isOk = true := by
    rintro ⟨running, -⟩
    rw [sendReset, if_pos opened, Link.reset_eq] at running
    dsimp only at running
    split at running
    · next ok => exact ok
    · cases running
  constructor
  · exact counts.reset opened
  · omega
  · intro shaking
    rw [armed shaking] at taken
    rw [turns, silences, taken]
    exact Nat.lt_succ_of_le paid
  · omega
  · omega
  · omega
  · intro shaking few
    rw [turns]
    apply early
    omega
  · have handed : Journal.Told sent.2.journal :=
      told.append (by simp [Effect.isTurn, Effect.isSilence])
    exact Journal.Told.still minor handed

/-- The host turns to the bootloader, for the first time unless its count has wrapped. -/
theorem Accounted.turn (accounted : Accounted host) (waited : ∃ front ms,
      host.world.journal = front ++ [.noted (.resetUnanswered ms)])
    (owed : Journal.turns host.world.journal + Journal.silences host.world.journal <
      Journal.delivered host.world.journal)
    (begun : Journal.attempts host.world.journal ≠ 0)
    (first : Journal.attempts host.world.journal < UInt32.size →
      Journal.attempts host.world.journal = 1 ∧ Journal.turns host.world.journal = 0)
    (goal : MenuEntry) :
    Accounted ((host.note (.probingAfterReset goal.mode)).enterBootloader goal) := by
  let noted := host.note (.probingAfterReset goal.mode)
  have entered := resetless_enterBootloader noted goal
  have still := not_shaking_enterBootloader noted goal
  have attempts : Journal.attempts (noted.enterBootloader goal).world.journal =
      Journal.attempts host.world.journal := by
    rw [Journal.attempts_eq entered.adds]
    simp [noted, note, World.note, Journal.attempts, Effect.transmission?]
  have delivered : Journal.delivered (noted.enterBootloader goal).world.journal =
      Journal.delivered host.world.journal := by
    rw [Journal.delivered_eq entered.adds]
    simp [noted, note, World.note, Journal.delivered, Effect.delivered?]
  have turns : Journal.turns (noted.enterBootloader goal).world.journal =
      Journal.turns host.world.journal + 1 := by
    rw [Journal.turns_eq entered.adds]
    simp [noted, note, World.note, Journal.turns, Effect.isTurn]
  have silences : Journal.silences (noted.enterBootloader goal).world.journal =
      Journal.silences host.world.journal := by
    rw [Journal.silences_eq entered.adds]
    simp [noted, note, World.note, Journal.silences, Effect.isSilence]
  change Accounted (noted.enterBootloader goal)
  constructor
  · exact accounted.counts.still entered.attempts attempts
  · omega
  · exact fun shaking => absurd shaking still
  · omega
  · exact fun none => absurd (attempts.symm.trans none) begun
  · exact fun shaking => absurd shaking still
  · exact fun shaking => absurd shaking still
  · obtain ⟨changes, journal, each⟩ := minor_enterBootloader noted goal
    have shown : (noted.enterBootloader goal).world.journal =
        host.world.journal ++ .noted (.probingAfterReset goal.mode) ::
          (.waitEnded :: .handedOver goal :: changes) := by
      rw [journal]
      simp [noted, note, World.note, turned, endWait, Link.endWait, record]
    rw [shown]
    refine accounted.told.turn goal ⟨?_, by simp⟩ ?_ (List.prefix_append _ changes)
    · intro target same
      cases same
      exact ⟨fun whole => (first whole).1, waited, goal, rfl⟩
    · simp only [List.forall_mem_cons]
      refine ⟨⟨rfl, rfl⟩, ⟨rfl, rfl⟩, fun entry member => ?_⟩
      have own := (each entry member).isResetless
      exact ⟨own.isTurn_eq, own.isSilence_eq⟩

/-- What the host waited for did not come, and it has looked for the bootloader before. -/
theorem Accounted.silent (accounted : Accounted host) (still : ¬ host.Shaking)
    (owed : Journal.turns host.world.journal + Journal.silences host.world.journal <
      Journal.delivered host.world.journal)
    (later : 2 ≤ Journal.attempts host.world.journal) (shown : Nat) :
    Accounted ((host.note (.adapterSilent shown)).report .adapterSilent) := by
  let noted := host.note (.adapterSilent shown)
  let silent := noted.report .adapterSilent
  have told : World.Adds Effect.IsResetless host.world noted.world :=
    (World.Adds.refl _).record (by trivial)
  have same := Journal.attempts_eq told
  have attempts : Journal.attempts silent.world.journal =
      Journal.attempts host.world.journal :=
    (Journal.attempts_record noted.world (.reported .adapterSilent) nofun).trans same
  have turns : Journal.turns silent.world.journal = Journal.turns host.world.journal := by
    rw [← Journal.turns_eq told]
    simp [silent, report, World.report, Journal.turns, Effect.isTurn]
  have silences : Journal.silences silent.world.journal =
      Journal.silences host.world.journal + 1 := by
    rw [← Journal.silences_eq told]
    simp [silent, report, World.report, Journal.silences, Effect.isSilence]
  have delivered : Journal.delivered silent.world.journal =
      Journal.delivered host.world.journal := by
    rw [← Journal.delivered_eq told]
    simp [silent, report, World.report, Journal.delivered, Effect.delivered?]
  change Accounted silent
  constructor
  · exact accounted.counts.still rfl attempts
  · omega
  · exact fun shaking => absurd shaking still
  · rw [turns, attempts]
    exact accounted.once
  · rw [turns, attempts]
    exact accounted.early
  · exact fun shaking => absurd shaking still
  · exact fun shaking => absurd shaking still
  · exact (Journal.Told.still told accounted.told).silence (same ▸ later)

/-- One more failure is told of, which is paid for. -/
theorem Accounted.expire (accounted : Accounted host) (shaking : host.Shaking) :
    Accounted host.unanswered.handleResetFailed := by
  have still : ¬ host.unanswered.Shaking := by
    rintro ⟨running, -⟩
    cases running
  have told : World.Adds Effect.IsResetless host.world host.unanswered.world :=
    (World.Adds.refl _).record (by trivial)
  have after : Accounted host.unanswered :=
    accounted.still ⟨rfl, fun shaking => absurd shaking still, told⟩
  have owed := accounted.owed shaking
  rw [← Journal.turns_eq told, ← Journal.silences_eq told, ← Journal.delivered_eq told] at owed
  have begun := accounted.begun shaking
  have first := accounted.first shaking
  rw [← Journal.attempts_eq told] at begun first
  rw [← Journal.turns_eq told] at first
  rcases host.unanswered.handleResetFailed_cases with ⟨few, goal, same⟩ | ⟨many, same⟩
  · rw [same]
    refine after.turn ⟨_, _, rfl⟩ owed begun (fun whole => ?_) goal
    have once := after.counts.le_one few whole
    exact ⟨by omega, first once⟩
  · rw [same]
    exact after.silent still owed (after.counts.two_le many) _

theorem Deed.accounted {wish : Option Mode} (deed : Deed wish host host')
    (accounted : Accounted host) : Accounted host' := by
  cases deed with
  | routine routine =>
    exact accounted.still (.of_minor routine.resetAttempts routine.shaking
      (routine.adds.mono fun _ => Effect.IsRoutine.isMinor))
  | mode mode =>
    refine accounted.still (.of_minor ?_ ?_ (minor_setMode host mode))
    · rw [setMode_eq]
    · rw [setMode_eq]
      exact id
  | answer =>
    refine accounted.still ⟨rfl, ?_, ?_⟩
    · rintro ⟨running, -⟩
      cases running
    · exact ((World.Adds.refl _).record (by trivial)).record (by trivial)
  | launch response command later =>
    let answered := { host.answeredBy response command later with launchPending := false }
    have settled : Resetless host answered := by
      refine ⟨rfl, ?_, ?_⟩
      · rintro ⟨running, -⟩
        cases running
      · exact ((World.Adds.refl _).record (by trivial)).record (by trivial)
    exact (accounted.still settled).still (resetless_enterBootloader answered .upload)
  | ask =>
    exact accounted.still
      ⟨rfl, id, ((World.Adds.refl _).record (by trivial)).record (by trivial)⟩
  | request goal asked => exact accounted.still (resetless_enterBootloader host goal)
  | read bytes =>
    refine accounted.still ⟨?_, shaking_read, ?_⟩
    · rw [(reads_read host bytes).rest]
    · have heard : World.Adds Effect.IsResetless host.world (host.record (.received bytes)).world :=
        (World.Adds.refl _).record (by trivial)
      exact heard.trans ((minor_read host bytes).mono fun _ => Effect.IsMinor.isResetless)
  | expire running down => exact accounted.expire ⟨running, down⟩
  | settle | fireConsole => exact accounted.still ⟨rfl, id, .refl _⟩
  | choose entry =>
    refine accounted.still ⟨rfl, id, ?_⟩
    exact host.console.adds_choose host.world entry (fun _ => by trivial)
      fun note own => (show (Effect.noted note).IsMinor from own).isResetless
  | probe =>
    exact accounted.still ⟨rfl, id, host.console.adds_poll host.world fun _ => by trivial⟩
  | handBack | take => exact accounted.still ⟨rfl, id, (World.Adds.refl _).record (by trivial)⟩
  | reset opened => exact accounted.reset opened
  | close =>
    refine accounted.still ⟨rfl, ?_, ?_⟩
    · rintro ⟨running, -⟩
      cases running
    · exact ((World.Adds.refl _).record (by trivial)).record (by trivial)

/-- However the port behaves and whatever comes over it, the host turns to the bootloader for
want of an answer to a reset, and tells that the adapter is silent, at most as often as the
port took a reset whole. It turns to the bootloader of its own accord at most once, right
after the wait for the answer to the first reset it ever tried, as long as the 32 bits in which
it counts its resets have not wrapped; and it tells that the adapter is silent only after a
second attempt. Whenever it looks at its timers, a turn to the bootloader is one of those
counted here. -/
theorem failures_paid_for (settings : Settings) (port : Port) (now : Nat)
    (history : List Operation) :
    let host := (ofSettings settings { port, now }).run history
    let journal := host.world.journal
    Journal.turns journal + Journal.silences journal ≤ Journal.delivered journal ∧
    (Journal.attempts journal < UInt32.size → Journal.turns journal ≤ 1) ∧
    (∀ before target after, journal = before ++ .noted (.probingAfterReset target) :: after →
      (Journal.attempts before < UInt32.size → Journal.attempts before = 1) ∧
        (∃ front ms, before = front ++ [.noted (.resetUnanswered ms)]) ∧
        ∃ goal : MenuEntry, target = goal.mode ∧ [.waitEnded, .handedOver goal] <+: after) ∧
    (∀ before after, journal = before ++ .reported .adapterSilent :: after →
      2 ≤ Journal.attempts before) ∧
    ∀ before goal after,
      (host.step .poll).world.journal = journal ++ (before ++ .handedOver goal :: after) →
        [.noted (.probingAfterReset goal.mode), .waitEnded] <:+ before := by
  intro host journal
  have accounted : Accounted host := by
    refine run_of_deeds settings port now (fun _ _ _ deed => deed.accounted) ?_ history
    have still : ¬ (ofSettings settings { port, now }).Shaking := by
      rintro ⟨running, -⟩
      cases running
    exact ⟨rfl, Nat.le_refl 0, fun shaking => absurd shaking still, fun _ => Nat.zero_le 1,
      fun _ => rfl, fun shaking => absurd shaking still, fun shaking => absurd shaking still,
      .nil, fun _ => .nil⟩
  refine ⟨accounted.paid, accounted.once, ?_, ?_, ?_⟩
  · intro before target after split
    obtain ⟨first, waited, goal, rfl⟩ :=
      (accounted.told.lawful before _ after split).turn target rfl
    exact ⟨first, waited, goal, rfl, accounted.told.turned goal before _ after split rfl⟩
  · intro before after split
    exact (accounted.told.lawful before _ after split).silence rfl
  · intro before goal after split
    exact called_of_poll settings port now history split

/-- The adapter answers neither the first reset nor, back from its bootloader, the second. -/
theorem failures_paid_for_of_silent_adapter :
    let menu := Bootloader.header ++ [Bootloader.newline] ++ Bootloader.prompt
    let history : List Operation := [.openPort, .fireLink, .poll, .fireConsole, .poll,
      .receive menu, .fireLink, .poll]
    let journal := ((ofSettings {} { port := { name := "line" } }).run history).world.journal
    Journal.delivered journal = 2 ∧ Journal.attempts journal = 2 ∧ Journal.turns journal ≤ 1 ∧
      (∃ before after, journal = before ++ .noted (.probingAfterReset .leaving) :: after ∧
        Journal.attempts before = 1) ∧
      ∃ before after, journal = before ++ .reported .adapterSilent :: after ∧
        2 ≤ Journal.attempts before := by
  intro menu history journal
  obtain ⟨delivered, attempts⟩ :
      Journal.delivered journal = 2 ∧ Journal.attempts journal = 2 := by
    decide +kernel
  have turned : journal =
      journal.take 5 ++ .noted (.probingAfterReset .leaving) :: journal.drop 6 := by
    decide +kernel
  have whole : Journal.attempts (journal.take 5) < UInt32.size := by
    decide +kernel
  have silent : journal = journal.take 21 ++ .reported .adapterSilent :: journal.drop 22 := by
    decide +kernel
  obtain ⟨-, once, turn, silence, -⟩ := failures_paid_for {} { name := "line" } 0 history
  refine ⟨delivered, attempts, once (by rw [attempts]; decide), ?_, ?_⟩
  · exact ⟨_, _, turned, (turn _ _ _ turned).1 whole⟩
  · exact ⟨_, _, silent, silence _ _ silent⟩

end Host
end NcpHost
