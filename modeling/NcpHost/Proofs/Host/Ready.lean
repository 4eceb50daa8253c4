import NcpHost.Proofs.Host.Conduct
import NcpHost.Proofs.History

/-! A ready adapter is reported once for each connection of the link, and between two of
these reports the link is reset. -/
namespace NcpHost

/-- A ready adapter was reported after the last reset. -/
def Journal.Readied (journal : List Effect) : Prop :=
  ∃ before after, journal = before ++ .reported .adapterReady :: after ∧
    ∀ outcome, .sent (.frame .reset) outcome ∉ after

namespace Journal

variable {journal added : List Effect}

/-- If nothing new is reported, the report is the earlier one. -/
theorem readied_append (none : readies added = 0) (readied : Readied (journal ++ added)) :
    Readied journal ∧ ∀ outcome, .sent (.frame .reset) outcome ∉ added := by
  have absent : .reported .adapterReady ∉ added := readies_eq_zero.mp none
  obtain ⟨before, after, split, since⟩ := readied
  rcases List.append_eq_append_iff.mp split with ⟨shown, -, rest⟩ | ⟨shown, same, rest⟩
  · rw [rest] at absent
    exact absurd (List.mem_append_right _ List.mem_cons_self) absent
  · cases shown with
    | nil =>
      rw [← List.nil_append added, ← rest] at absent
      exact absurd List.mem_cons_self absent
    | cons first later =>
      obtain ⟨rfl, rfl⟩ := List.cons.inj rest
      exact ⟨⟨before, later, same, fun outcome own => since outcome (List.mem_append_left _ own)⟩,
        fun outcome own => since outcome (List.mem_append_right _ own)⟩

end Journal

namespace Host

/-- What the endpoint of the link signals in a history. -/
def signals (host : Host) : List Operation → List Signal
  | [] => []
  | operation :: later => host.signalled operation ++ (host.step operation).signals later

variable {host : Host}

/-- The entries by which the journal has grown, against what was signalled: a ready adapter is
reported as often as the link comes up, and it stays up unless it is reset. -/
def Tells (host host' : Host) (signals : List Signal) : Prop :=
  ∃ added, host'.world.journal = host.world.journal ++ added ∧
    Journal.readies added = Endpoint.raised signals ∧
    (host'.link.connected.toNat = Endpoint.raised signals + host.link.connected.toNat ∨
      Endpoint.raised signals = 0 ∧ ∃ outcome, .sent (.frame .reset) outcome ∈ added)

/-- What only notes and ends of waits precede. -/
theorem Tells.of_conduct {before middle after : Host} {signals : List Signal}
    (adds : World.Adds (· ≠ .reported .adapterReady) before.world middle.world)
    (up : middle.link.connected.toNat =
      Endpoint.raised signals + before.link.connected.toNat)
    (conduct : Conduct (Endpoint.raised signals) false middle after) :
    Tells before after signals := by
  obtain ⟨front, journal, other⟩ := adds
  obtain ⟨back, journal', -, told, same | ⟨allowed, -⟩, -⟩ := conduct
  · have none : Journal.readies front = 0 :=
      Journal.readies_eq_zero.mpr fun told => other _ told rfl
    refine ⟨front ++ back, by rw [journal', journal, List.append_assoc], ?_, .inl ?_⟩
    · rw [Journal.readies_append, none, told, Nat.zero_add]
    · rw [same, up]
  · cases allowed

theorem tells_step (host : Host) (operation : Operation) :
    Tells host (host.step operation) (host.signalled operation) := by
  rcases Conduct.step host operation with
    ⟨bytes, rfl, active⟩ | rfl | rfl | ⟨silent, added, journal, -, told, connected, -⟩
  · have heard : host.signalled (.receive bytes) = (host.link.endpoint.receive bytes).signals :=
      if_pos active
    have adds : World.Adds (· ≠ .reported .adapterReady) host.world (host.read bytes).world :=
      ((World.Adds.refl _).record nofun).trans
        (adds_read host bytes (fun _ _ => nofun) nofun)
    rw [heard]
    refine .of_conduct adds ?_ (Conduct.receive_link active bytes)
    rw [Link.connected, endpoint_read active]
    exact (Endpoint.raised_receive _ bytes).symm
  · have adds : World.Adds (· ≠ .reported .adapterReady) host.world host.polled.world :=
      host.link.adds_poll host.world fun _ _ => nofun
    refine .of_conduct adds ?_ (Conduct.poll host)
    rw [Link.connected, polled, Link.poll_endpoint]
    exact (Nat.zero_add _).symm
  · exact ⟨[.waitEnded, .handedBack], List.append_assoc .., rfl, .inl (Nat.zero_add _).symm⟩
  · rw [silent]
    refine ⟨added, journal, told, ?_⟩
    rcases connected with same | ⟨-, -, reset⟩
    · exact .inl (by rw [same]; exact (Nat.zero_add _).symm)
    · exact .inr ⟨rfl, reset⟩

/-- No ready adapter was reported while another one was since the last reset, and if one was,
the link is up. -/
structure Announced (host : Host) : Prop where
  once : Lawful (fun before entry => entry = .reported .adapterReady → ¬ Journal.Readied before)
    host.world.journal
  up : Journal.Readied host.world.journal → host.link.connected = true

theorem Announced.tells {host' : Host} {signals : List Signal} (announced : host.Announced)
    (tells : Tells host host' signals) : host'.Announced := by
  obtain ⟨added, journal, told, link⟩ := tells
  by_cases none : Journal.readies added = 0
  · rw [none] at told
    constructor
    · rw [journal]
      refine announced.once.append fun entry member before same => ?_
      exact absurd (same ▸ member) (Journal.readies_eq_zero.mp none)
    · intro readied
      rw [journal] at readied
      obtain ⟨earlier, unreset⟩ := Journal.readied_append none readied
      rcases link with same | ⟨-, outcome, reset⟩
      · rw [← told, Nat.zero_add, announced.up earlier] at same
        exact Bool.toNat_eq_one.mp same
      · exact absurd reset (unreset outcome)
  · have one : Journal.readies added = 1 ∧ host.link.connected = false ∧
        host'.link.connected = true := by
      rcases link with same | ⟨silent, -⟩
      · have bound := host'.link.connected.toNat_le
        rw [← told] at same
        have one : Journal.readies added = 1 := by omega
        have down : host.link.connected.toNat = 0 := by omega
        exact ⟨one, Bool.toNat_eq_zero.mp down, Bool.toNat_eq_one.mp (by omega)⟩
      · exact absurd (told.trans silent) none
    obtain ⟨one, down, up⟩ := one
    have unready : ¬ Journal.Readied host.world.journal := fun readied =>
      Bool.eq_false_iff.mp down (announced.up readied)
    refine ⟨?_, fun _ => up⟩
    rw [journal]
    refine announced.once.join fun before entry after split same readied => ?_
    have first : Journal.readies before = 0 := by
      rw [split, same, Journal.readies_append, Journal.readies, Journal.readies,
        List.count_cons_self] at one
      exact Nat.eq_zero_of_add_eq_zero_right (Nat.succ.inj one)
    exact unready (Journal.readied_append first readied).1

theorem announced_run (announced : host.Announced) (history : List Operation) :
    (host.run history).Announced := by
  induction history generalizing host with
  | nil => exact announced
  | cons operation later ih => exact ih (announced.tells (tells_step host operation))

theorem readies_run (host : Host) (history : List Operation) :
    Journal.readies (host.run history).world.journal =
      Journal.readies host.world.journal + Endpoint.raised (host.signals history) := by
  induction history generalizing host with
  | nil => rfl
  | cons operation later ih =>
    obtain ⟨added, journal, told, -⟩ := tells_step host operation
    rw [run_cons, ih, journal, Journal.readies_append, told, signals, Endpoint.raised_append,
      Nat.add_assoc]

/-- A link is up exactly if that was signalled since it was set up or last reset, and between
two resets it is signalled at most once, each time by a reset acknowledgement that arrives
whole, for the right version and with one of three codes. A host reports a ready adapter as
often as its link signals that it is up, and never while another one was reported since the
last reset. -/
theorem connections_told_once :
    (∀ earlier stretch, Endpoint.Restarted earlier → .reset ∉ stretch →
      let heard := ((Endpoint.run {} earlier).outcomes stretch).flatMap Endpoint.Outcome.signals
      ((Endpoint.run {} (earlier ++ stretch)).connected = true ↔
        ∃ code, .connected code ∈ heard) ∧ Endpoint.raised heard ≤ 1) ∧
    (∀ (endpoint : Endpoint) bytes front code back,
      (endpoint.receive bytes).signals = front ++ .connected code :: back →
      ∃ early late byte more, bytes = early ++ Wire.flag :: late ∧
        let pending := (endpoint.receive early).endpoint
        pending.connected = false ∧ pending.corrupt = false ∧
        Wire.Carries pending.buffer
          (Wire.Control.resetAckByte :: Wire.protocolVersion :: byte :: more) ∧
        byte ∈ Wire.handshakeCodes ∧ code = .ofByte byte ∧
        front = (endpoint.receive early).signals ++ [.cancelTimer]) ∧
    ∀ (settings : Settings) (port : Port) (now : Nat) (history : List Operation),
      let start := ofSettings settings { port, now }
      let journal := (start.run history).world.journal
      Journal.readies journal = Endpoint.raised (start.signals history) ∧
        ∀ before after, journal = before ++ .reported .adapterReady :: after →
          ¬ Journal.Readied before := by
  refine ⟨fun earlier stretch => Endpoint.connected_iff_signalled, ?_, ?_⟩
  · intro endpoint bytes front code back
    exact Endpoint.connected_of_resetAck
  · intro settings port now history start journal
    have announced : start.Announced := by
      refine ⟨Lawful.nil, ?_⟩
      rintro ⟨before, after, split, -⟩
      simp [start, ofSettings] at split
    refine ⟨?_, fun before after split => ?_⟩
    · exact (readies_run start history).trans (Nat.zero_add _)
    · exact (announced_run announced history).once before _ after split rfl

end Host
end NcpHost
