import NcpHost.Proofs.Host.Conduct
import NcpHost.Proofs.Host.Repeat

/-! The budget of repetitions. Each of them uses one attempt of the policy, and attempts are
given back only where a wait ends, so between two ends of a wait no more frames are repeated
than the policy allows, whatever else happens. -/
namespace NcpHost

namespace AckPolicy

/-- How often the policy has a frame sent again between two acknowledgements. -/
def limit : AckPolicy → Nat
  | .logOnly => 0
  | .retransmit limit _ => limit

def attempts : AckPolicy → Nat
  | .logOnly => 0
  | .retransmit _ attempts => attempts

@[simp] theorem limit_acknowledged (policy : AckPolicy) :
    policy.acknowledged.limit = policy.limit := by
  cases policy <;> rfl

@[simp] theorem attempts_acknowledged (policy : AckPolicy) :
    policy.acknowledged.attempts = 0 := by
  cases policy <;> rfl

theorem timeout_cases (policy : AckPolicy) :
    policy.timeout = (.logOnly, policy) ∨
      policy.timeout.1 = .retransmit ∧ policy.attempts < policy.limit ∧
        policy.timeout.2.limit = policy.limit ∧
        policy.timeout.2.attempts = policy.attempts + 1 := by
  cases policy with
  | logOnly => exact .inl rfl
  | retransmit limit attempts =>
    by_cases left : attempts < limit
    · exact .inr (by simp [timeout, left, AckPolicy.limit, AckPolicy.attempts])
    · exact .inl (if_neg left)

end AckPolicy

instance : DecidablePred Effect.IsResend
  | .sent (.frame (.data _ _ resend _)) _ => inferInstanceAs (Decidable (resend = true))
  | .sent (.frame (.ack _)) _ | .sent (.frame (.nak _)) _ | .sent (.frame .reset) _
  | .sent (.frame (.resetAck _)) _ | .sent .probe _ | .sent (.choice _) _ | .received _
  | .reported _ | .noted _ | .queued _ | .answered .. | .handedOver _ | .handedBack
  | .waitEnded => .isFalse id

/-- How many frames a journal repeats. -/
def Journal.resends (journal : List Effect) : Nat := journal.countP (Effect.IsResend ·)

namespace Journal

theorem resends_append (front back : List Effect) :
    resends (front ++ back) = resends front + resends back :=
  List.countP_append

theorem resends_eq_zero {journal : List Effect} :
    resends journal = 0 ↔ ∀ entry ∈ journal, ¬ entry.IsResend := by
  simp [resends, List.countP_eq_zero]

end Journal

namespace Host

variable {host host' last : Host}

/-- Nothing is repeated, and attempts are given back only as a wait ends; or one attempt is
used, for one repetition at most. -/
def Spends (host host' : Host) : Prop :=
  ∃ added, host'.world.journal = host.world.journal ++ added ∧
    (Journal.resends added = 0 ∧ Eased added host.link.policy host'.link.policy ∨
      Journal.resends added ≤ 1 ∧ host.link.policy.attempts < host.link.policy.limit ∧
        host'.link.policy.limit = host.link.policy.limit ∧
        host'.link.policy.attempts = host.link.policy.attempts + 1)

/-- The policy allows `most` repetitions, and has used an attempt for every one since a wait
last ended. No stretch of the journal in which no wait ends has more of them. -/
structure InBudget (most : Nat) (host : Host) : Prop where
  limit : host.link.policy.limit = most
  attempts : host.link.policy.attempts ≤ most
  since : ∀ before stretch, host.world.journal = before ++ stretch → .waitEnded ∉ stretch →
    Journal.resends stretch ≤ host.link.policy.attempts
  between : ∀ before stretch after, host.world.journal = before ++ stretch ++ after →
    .waitEnded ∉ stretch → Journal.resends stretch ≤ most

theorem Polled.resends (polled : Polled host host') : ∃ added,
    host'.world.journal = host.world.journal ++ added ∧ Journal.resends added ≤ 1 := by
  obtain ⟨early, resent, late, journal, apart, repeats⟩ := polled.journal
  have none : ∀ entries, (∀ entry ∈ entries, entry ∈ early ++ late) →
      Journal.resends entries = 0 := fun entries own =>
    Journal.resends_eq_zero.mpr fun entry member =>
      Effect.not_isResend (apart entry (own entry member))
  have one : Journal.resends resent ≤ 1 := by
    refine List.countP_le_length.trans ?_
    rcases repeats with rfl | ⟨number, payload, outcome, -, rfl⟩
    · exact Nat.zero_le 1
    · exact Nat.le_refl 1
  refine ⟨_, journal, ?_⟩
  rw [Journal.resends_append, Journal.resends_append,
    none early fun _ => List.mem_append_left _, none late fun _ => List.mem_append_right _]
  omega

namespace InBudget

variable {most : Nat}

/-- A stretch at the end of a grown journal is new, or no wait ends in what is new. -/
theorem resends_le (budget : host.InBudget most) {shown before stretch : List Effect}
    (split : host.world.journal ++ shown = before ++ stretch) (free : .waitEnded ∉ stretch) :
    Journal.resends stretch ≤ Journal.resends shown ∨ .waitEnded ∉ shown ∧
      Journal.resends stretch ≤ host.link.policy.attempts + Journal.resends shown := by
  rcases List.append_eq_append_iff.mp split with ⟨missing, -, rest⟩ | ⟨back, same, rest⟩
  · refine .inl ?_
    rw [rest, Journal.resends_append]
    exact Nat.le_add_left _ _
  · rw [rest, List.mem_append, not_or] at free
    have old := budget.since before back same free.1
    refine .inr ⟨free.2, ?_⟩
    rw [rest, Journal.resends_append]
    exact Nat.add_le_add_right old _

theorem spends (budget : host.InBudget most) (spends : Spends host host') :
    host'.InBudget most := by
  obtain ⟨added, journal, used⟩ := spends
  have limit := budget.limit
  have attempts := budget.attempts
  constructor
  · rcases used with ⟨-, same | ⟨-, same⟩⟩ | ⟨-, -, same, -⟩
    · rw [same, limit]
    · rw [same, AckPolicy.limit_acknowledged, limit]
    · rw [same, limit]
  · rcases used with ⟨-, same | ⟨-, same⟩⟩ | ⟨-, left, -, same⟩
    · rw [same]
      exact attempts
    · rw [same, AckPolicy.attempts_acknowledged]
      exact Nat.zero_le _
    · omega
  · -- Behind the last end of a wait every repetition has used an attempt.
    intro before stretch split free
    rw [journal] at split
    have few := budget.resends_le split free
    rcases used with ⟨none, same | ⟨ended, -⟩⟩ | ⟨one, -, -, same⟩
    · rw [same]
      omega
    · have never := few.resolve_right fun open_ => open_.1 ended
      omega
    · omega
  · -- A stretch ends within the new entries, or it was there before.
    intro before stretch after split free
    rw [journal] at split
    rcases List.append_eq_append_iff.mp split with ⟨shown, same, rest⟩ | ⟨missing, same, -⟩
    · have few := budget.resends_le same.symm free
      have part : Journal.resends shown ≤ Journal.resends added := by
        rw [rest, Journal.resends_append]
        exact Nat.le_add_right _ _
      rcases used with ⟨none, -⟩ | ⟨one, left, -⟩ <;> omega
    · exact budget.between before stretch missing same free

end InBudget

theorem Spends.of_adds (adds : World.Adds (fun effect => ¬ effect.IsResend) host.world host'.world)
    {added : List Effect} (journal : host'.world.journal = host.world.journal ++ added)
    (eased : Eased added host.link.policy host'.link.policy) : Spends host host' := by
  obtain ⟨shown, journal', each⟩ := adds
  obtain rfl := List.append_cancel_left (journal'.symm.trans journal)
  exact ⟨shown, journal, .inl ⟨Journal.resends_eq_zero.mpr each, eased⟩⟩

/-- While bytes for the link are read nothing is sent, and a wait ends if a signal says so. -/
theorem read_shows (active : host.active = .link) (bytes : List UInt8) :
    ∃ marks, (host.read bytes).world.journal = host.world.journal ++ .received bytes :: marks ∧
      (∀ what outcome, .sent what outcome ∉ marks) ∧
      (.waitEnded ∈ marks ↔ .cancelTimer ∈ (host.link.endpoint.receive bytes).signals) := by
  let intake := host.link.endpoint.receive bytes
  refine ⟨intake.notes.map .noted ++ intake.signals.filterMap Signal.effect?, ?_, ?_, ?_⟩
  · rw [read_link active, Link.receive_world]
    simp [record, World.record, intake]
  · intro what outcome member
    rcases List.mem_append.mp member with told | heard
    · obtain ⟨note, -, same⟩ := List.mem_map.mp told
      cases same
    · obtain ⟨signal, -, same⟩ := List.mem_filterMap.mp heard
      cases signal <;> cases same
  · constructor
    · intro member
      rcases List.mem_append.mp member with told | heard
      · obtain ⟨note, -, same⟩ := List.mem_map.mp told
        cases same
      · obtain ⟨signal, own, same⟩ := List.mem_filterMap.mp heard
        cases signal <;> cases same
        exact own
    · exact fun cancelled =>
        List.mem_append_right _ (List.mem_filterMap.mpr ⟨_, cancelled, rfl⟩)

theorem policy_read (active : host.active = .link) (bytes : List UInt8) :
    (host.read bytes).link.policy =
      if .cancelTimer ∈ (host.link.endpoint.receive bytes).signals then
        host.link.policy.acknowledged
      else host.link.policy := by
  rw [read_link active, Link.receive_link]
  split <;> rfl

theorem link_pollConsole (host : Host) : host.pollConsole.link = host.link := by
  rcases host.pollConsole_cases with same | ⟨-, -, same | ⟨error, same⟩⟩
  · rw [same]
  · rw [same]
    rfl
  · rw [same]
    rfl

theorem policy_sendNext_idle (host : Host) :
    { host with waiting := false }.sendNext.2.link.policy = host.link.policy := by
  rcases host.sendNext_idle_cases with ⟨command, later, can, oldest⟩ | ⟨-, same⟩
  · rw [sendNext_of_can host can oldest, Link.send_eq]
  · rw [same]

theorem policy_ackTimeout (host : Host) (action : TimeoutAction) :
    (host.handleLinkEvent (.ackTimeout action)).link.policy = host.link.policy := by
  rcases host.ackTimeout_cases action with same | ⟨-, same⟩
  · rw [same]
  · rw [same, resend, link_attempt, policy_sendNext_idle]
    rfl

/-- A poll that hands no DATA frame to the port, and for which the policy was not asked. -/
theorem spends_quiet_poll (still : Still host host.poll)
    (unasked : host.polled.link.policy = host.link.policy) : Spends host host.poll := by
  obtain ⟨notes, looked⟩ := host.link.poll_journal host.world
  have handled : Conduct 0 false host.polled host.poll := Conduct.poll host
  obtain ⟨added, journal, -, -, -, eased⟩ := handled
  have grown : host.poll.world.journal =
      host.world.journal ++ (notes.map .noted ++ added) := by
    rw [journal, ← List.append_assoc, ← looked]
    rfl
  exact .of_adds (still.adds.mono fun _ => Effect.not_isResend) grown
    (.append (.inl unasked) eased)

theorem spends_poll {timeouts : Timeouts} (sound : host.standing.Sound timeouts)
    (fresh : host.Fresh) (repeatable : host.Repeatable) : Spends host host.poll := by
  have looked : Still host host.polled :=
    ⟨Still.oldest_kept host, by rw [endpoint_polled], by rw [endpoint_polled],
      host.link.adds_poll host.world fun _ _ => rfl⟩
  rcases host.link.poll_cases host.world with none | ⟨-, -, failed⟩ | ⟨-, -, silent⟩
  · have same : host.pollLink = host := by simp only [pollLink, none, Option.elim_none]
    refine spends_quiet_poll ?_ ?_
    · rw [poll, same]
      exact still_pollConsole host
    · rw [polled, none]
  · have same : host.pollLink = host.polled.handleResetFailed := by
      simp only [pollLink, polled, failed, Option.elim_some]
      rfl
    refine spends_quiet_poll ?_ ?_
    · rw [poll, same]
      exact (looked.trans (still_handleResetFailed _)).trans (still_pollConsole _)
    · rw [polled, failed]
  · have same : host.pollLink =
        host.polled.handleLinkEvent (.ackTimeout host.link.policy.timeout.1) := by
      simp only [pollLink, polled, silent, Option.elim_some]
    have asked : host.polled.link.policy = host.link.policy.timeout.2 := by rw [polled, silent]
    rcases host.link.policy.timeout_cases with spent | ⟨-, left, limit, attempts⟩
    · rw [spent] at same asked
      refine spends_quiet_poll ?_ asked
      rw [poll, same]
      exact looked.trans (still_pollConsole _)
    · obtain ⟨added, journal, few⟩ := (polled_poll sound fresh repeatable).resends
      have policy : host.poll.link.policy = host.link.policy.timeout.2 := by
        rw [poll, link_pollConsole, same, policy_ackTimeout, asked]
      exact ⟨added, journal, .inr ⟨few, left, by rw [policy, limit], by rw [policy, attempts]⟩⟩

/-- Every operation keeps to the budget. -/
theorem spends_step {timeouts : Timeouts} (sound : host.standing.Sound timeouts)
    (fresh : host.Fresh) (repeatable : host.Repeatable) (operation : Operation) :
    Spends host (host.step operation) := by
  by_cases polls : operation = .poll
  · rw [polls]
    exact spends_poll sound fresh repeatable
  · have adds := (onward_step sound fresh polls).adds
    rcases Conduct.step host operation with
      ⟨bytes, rfl, active⟩ | rfl | rfl | ⟨-, added, journal, -, -, -, eased⟩
    · obtain ⟨marks, read, -, ended⟩ := read_shows active bytes
      have first : Eased (.received bytes :: marks) host.link.policy
          (host.read bytes).link.policy := by
        rw [policy_read active]
        split
        · next cancelled => exact .inr ⟨List.mem_cons_of_mem _ (ended.mpr cancelled), rfl⟩
        · exact .inl rfl
      have handled : Conduct _ false _ (host.receive bytes) := Conduct.receive_link active bytes
      obtain ⟨back, journal, -, -, -, second⟩ := handled
      rw [read, List.append_assoc] at journal
      exact .of_adds adds journal (first.append second)
    · exact absurd rfl polls
    · exact .of_adds adds (List.append_assoc ..) (.inr ⟨List.mem_cons_self, rfl⟩)
    · exact .of_adds adds journal eased

theorem inBudget_run (settings : Settings) (port : Port) (now : Nat) (history : List Operation) :
    ((ofSettings settings { port, now }).run history).InBudget settings.policy.limit := by
  induction history using List.reverseRecOn with
  | nil =>
    refine ⟨rfl, ?_, fun before stretch split _ => ?_, fun before stretch after split _ => ?_⟩
    · simp only [run_nil, ofSettings, Settings.policy]
      split <;> exact Nat.zero_le _
    all_goals
      simp only [run_nil, ofSettings, List.nil_eq, List.append_eq_nil_iff] at split
      simp [split, Journal.resends]
  | append_singleton front last ih =>
    obtain ⟨fresh, repeatable⟩ := repeatable_run settings port now front
    rw [run_append]
    exact ih.spends (spends_step (sound_run settings port now front) fresh repeatable last)

/-! Why waits end. -/

/-- An end of a wait is among the entries in front, or its reason comes right after it. -/
theorem mem_or_reason {front back shown middle : List Effect} (explained : Explained back)
    (split : front ++ back = shown ++ .waitEnded :: middle) :
    (∃ rest, front = shown ++ .waitEnded :: rest) ∨
      ∃ reason rest, middle = reason :: rest ∧ reason.Settles := by
  rcases List.append_eq_append_iff.mp split with ⟨missing, -, rest⟩ | ⟨own, same, rest⟩
  · exact .inr (explained.reason rest)
  · cases own with
    | nil =>
      have first : back = [] ++ .waitEnded :: middle := rest.symm
      exact .inr (explained.reason first)
    | cons first more =>
      obtain ⟨rfl, -⟩ := List.cons.inj rest
      exact .inl ⟨more, same⟩

/-- In an operation a wait ends since a frame for the link says so, which is read before anything
is sent; since the port is closed; or since a command is answered or the port goes to the
console. -/
theorem ends_step {operation : Operation} {shown middle : List Effect}
    (journal : (host.step operation).world.journal =
      host.world.journal ++ (shown ++ .waitEnded :: middle)) :
    (∃ bytes rest, operation = .receive bytes ∧ host.active = .link ∧
        .cancelTimer ∈ (host.link.endpoint.receive bytes).signals ∧
        shown = .received bytes :: rest ∧ ∀ what outcome, .sent what outcome ∉ rest) ∨
      (operation = .closePort ∧ shown = []) ∨
      ∃ reason rest, middle = reason :: rest ∧ reason.Settles := by
  rcases Conduct.step host operation with
    ⟨bytes, rfl, active⟩ | rfl | rfl | ⟨-, added, grown, explained, -⟩
  · obtain ⟨marks, read, unsent, ended⟩ := read_shows active bytes
    have handled : Conduct _ false _ (host.receive bytes) := Conduct.receive_link active bytes
    obtain ⟨back, grown, explained, -⟩ := handled
    rw [read, List.append_assoc] at grown
    have split := List.append_cancel_left (grown.symm.trans journal)
    refine (mem_or_reason explained split).imp ?_ .inr
    rintro ⟨rest, front⟩
    cases shown with
    | nil => cases (List.cons.inj front).1
    | cons first before =>
      obtain ⟨rfl, rfl⟩ := List.cons.inj front
      exact ⟨bytes, before, rfl, active, ended.mp (by simp), rfl,
        fun what outcome member => unsent what outcome (List.mem_append_left _ member)⟩
  · obtain ⟨notes, looked⟩ := host.link.poll_journal host.world
    have handled : Conduct 0 false host.polled host.poll := Conduct.poll host
    obtain ⟨back, grown, explained, -⟩ := handled
    have looked : host.polled.world.journal = host.world.journal ++ notes.map .noted := looked
    rw [looked, List.append_assoc] at grown
    have split := List.append_cancel_left (grown.symm.trans journal)
    refine (mem_or_reason explained split).elim ?_ (.inr ∘ .inr)
    rintro ⟨rest, front⟩
    have member : .waitEnded ∈ notes.map Effect.noted := by simp [front]
    obtain ⟨note, -, same⟩ := List.mem_map.mp member
    cases same
  · refine .inr (.inl ⟨rfl, ?_⟩)
    have split : host.world.journal ++ [.waitEnded, .handedBack] =
        host.world.journal ++ (shown ++ .waitEnded :: middle) :=
      (List.append_assoc ..).symm.trans journal
    match shown, List.append_cancel_left split with
    | [], _ => rfl
    | [first], same => cases (List.cons.inj (List.cons.inj same).2).1
    | first :: second :: more, same => simp at same
  · have split := List.append_cancel_left (grown.symm.trans journal)
    exact .inr (.inr (explained.reason split))

/-- Why a wait ended, by the place of its end in the journal of a history: bytes for the link
have signalled an acknowledgement, and nothing was sent since they came; the port was closed;
or right after it a command is answered or the port goes to the console. -/
inductive Ends (start : Host) (history : List Operation) (before after : List Effect) : Prop
  | heard {earlier later : List Operation} {bytes : List UInt8} {shown : List Effect}
      (received : history = earlier ++ .receive bytes :: later)
      (active : (start.run earlier).active = .link)
      (signal : .cancelTimer ∈ ((start.run earlier).link.endpoint.receive bytes).signals)
      (place : before = (start.run earlier).world.journal ++ .received bytes :: shown)
      (unsent : ∀ what outcome, .sent what outcome ∉ shown) : Ends start history before after
  | closed {earlier later : List Operation} (closed : history = earlier ++ .closePort :: later)
      (place : before = (start.run earlier).world.journal) : Ends start history before after
  | settled {reason : Effect} {later : List Effect} (settles : reason.Settles)
      (next : after = reason :: later) : Ends start history before after

theorem ends_run {start : Host} {history : List Operation} {before after : List Effect}
    (split : (start.run history).world.journal = before ++ .waitEnded :: after)
    (new : start.world.journal.length ≤ before.length) : Ends start history before after := by
  obtain ⟨earlier, operation, later, shown, middle, rfl, rfl, journal⟩ := exists_step split new
  rcases ends_step journal with
    ⟨bytes, rest, rfl, active, signal, rfl, unsent⟩ | ⟨rfl, rfl⟩ | ⟨reason, rest, rfl, settles⟩
  · exact .heard rfl active signal rfl unsent
  · exact .closed rfl (List.append_nil _)
  · obtain ⟨more, grown⟩ := journal_run ((start.run earlier).step operation) later
    rw [run_append, run_cons, ← grown, journal] at split
    simp only [List.append_assoc, List.cons_append] at split
    have same := List.append_cancel_left (List.append_cancel_left split)
    exact .settled settles (List.cons.inj same).2.symm

theorem limit_policy (settings : Settings) :
    settings.policy.limit =
      if settings.retransmitOnAckTimeout then settings.maxRetransmits.toNat else 0 := by
  unfold Settings.policy
  split <;> rfl

/-- Between two ends of a wait at most as many frames are repeated as the user has set, and none
ever is if the user has not asked for it, whatever else happens. A wait ends only since bytes
for the link signal an acknowledgement, since a command is answered, since the port goes to
the console, or since it is closed. -/
theorem repetitions_within_budget (settings : Settings) (port : Port) (now : Nat)
    (history : List Operation) :
    let start := ofSettings settings { port, now }
    let journal := (start.run history).world.journal
    (∀ before stretch after, journal = before ++ stretch ++ after → .waitEnded ∉ stretch →
      Journal.resends stretch ≤ settings.maxRetransmits.toNat) ∧
    (settings.retransmitOnAckTimeout = false → ∀ entry ∈ journal, ¬ entry.IsResend) ∧
    ∀ before after, journal = before ++ .waitEnded :: after → Ends start history before after := by
  intro start journal
  have budget := inBudget_run settings port now history
  rw [limit_policy] at budget
  refine ⟨fun before stretch after split free => ?_, fun unset entry member resend => ?_, ?_⟩
  · refine (budget.between before stretch after split free).trans ?_
    split
    · exact Nat.le_refl _
    · exact Nat.zero_le _
  · obtain ⟨before, after, split⟩ := List.append_of_mem member
    have alone : journal = before ++ [entry] ++ after := by
      rw [List.append_assoc, List.singleton_append]
      exact split
    have other : .waitEnded ∉ [entry] := by
      intro same
      obtain rfl := List.mem_singleton.mp same
      exact resend
    have none := budget.between before [entry] after alone other
    rw [unset] at none
    exact Journal.resends_eq_zero.mp (Nat.le_zero.mp none) entry List.mem_cons_self resend
  · exact fun before after split => ends_run split (Nat.zero_le _)

end Host
end NcpHost
