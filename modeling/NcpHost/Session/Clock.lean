/-! The clock of a host loop. No reading is earlier than the one before, though it may be
the same; how much passes in between is not known beforehand. Times are microseconds,
limits nanoseconds. -/
namespace NcpHost

/-- A duration of `ms` milliseconds, in nanoseconds. -/
def nanoseconds (ms : Nat) : Nat := 1000000 * ms

structure Clock where
  now : Nat := 0
  /-- What passes before the n-th reading. -/
  gap : Nat → Nat := fun _ => 10
  readings : Nat := 0
  /-- Time does not stop for good. -/
  advances : ∀ n, ∃ k, 0 < gap (n + k) := by exact fun _ => ⟨0, Nat.succ_pos 9⟩

namespace Clock

def read (clock : Clock) : Clock :=
  { clock with
    now := clock.now + clock.gap clock.readings
    readings := clock.readings + 1 }

def sleep (clock : Clock) (ms : Nat) : Clock :=
  { clock with now := clock.now + 1000 * ms }

/-- The clock after `n` readings. -/
def skip (clock : Clock) : Nat → Clock
  | 0 => clock
  | n + 1 => (clock.skip n).read

theorem skip_skip (clock : Clock) (m n : Nat) : (clock.skip m).skip n = clock.skip (m + n) := by
  induction n with
  | zero => rfl
  | succ n ih => rw [skip, ih, ← Nat.add_assoc, skip]

theorem gap_skip (clock : Clock) (n : Nat) :
    (clock.skip n).gap = clock.gap ∧ (clock.skip n).readings = clock.readings + n := by
  induction n with
  | zero => exact ⟨rfl, rfl⟩
  | succ n ih => exact ⟨ih.1, congrArg (· + 1) ih.2⟩

theorem now_skip_succ (clock : Clock) (n : Nat) :
    (clock.skip (n + 1)).now = (clock.skip n).now + clock.gap (clock.readings + n) := by
  obtain ⟨gap, readings⟩ := clock.gap_skip n
  rw [← gap, ← readings]
  rfl

theorem now_skip_mono (clock : Clock) {m n : Nat} (le : m ≤ n) :
    (clock.skip m).now ≤ (clock.skip n).now := by
  induction le with
  | refl => exact Nat.le_refl _
  | step _ ih => exact Nat.le_trans ih (Nat.le_add_right ..)

/-- However often the clock shows the same, it moves on at last. -/
theorem exists_now_lt_skip (clock : Clock) : ∃ n, clock.now < (clock.skip n).now := by
  obtain ⟨k, moves⟩ := clock.advances clock.readings
  have stays : clock.now ≤ (clock.skip k).now := clock.now_skip_mono (Nat.zero_le k)
  refine ⟨k + 1, ?_⟩
  rw [now_skip_succ]
  omega

theorem exists_lt_now_skip (clock : Clock) (time : Nat) : ∃ n, time < (clock.skip n).now := by
  induction time with
  | zero =>
    obtain ⟨n, moves⟩ := clock.exists_now_lt_skip
    exact ⟨n, Nat.zero_lt_of_lt moves⟩
  | succ time ih =>
    obtain ⟨n, later⟩ := ih
    obtain ⟨m, moves⟩ := (clock.skip n).exists_now_lt_skip
    refine ⟨n + m, ?_⟩
    rw [← skip_skip]
    omega

/-- A clock that is read until it is past `deadline`. -/
structure Until (deadline : Nat) where
  clock : Clock

namespace Until

variable {deadline : Nat}

/-- One reading, which is in time, and maybe more. -/
def Follows (later earlier : Until deadline) : Prop :=
  earlier.clock.read.now ≤ deadline ∧ ∃ n, later.clock = earlier.clock.skip (n + 1)

theorem acc_of_skip {n : Nat} {start : Until deadline}
    (past : deadline < (start.clock.skip n).now) : Acc Follows start := by
  induction n using Nat.strongRecOn generalizing start with
  | ind n ih =>
    refine ⟨start, fun later ⟨inTime, m, same⟩ => ?_⟩
    cases n with
    | zero =>
      have stays : start.clock.now ≤ start.clock.read.now :=
        start.clock.now_skip_mono (Nat.zero_le 1)
      exact absurd inTime (Nat.not_le.mpr (Nat.lt_of_lt_of_le past stays))
    | succ n =>
      -- `m + 1` of the `n + 1` readings that lead past the deadline are done.
      refine ih (n - m) (by omega) (Nat.lt_of_lt_of_le past ?_)
      rw [same, skip_skip]
      exact start.clock.now_skip_mono (by omega)

instance : WellFoundedRelation (Until deadline) where
  rel := Follows
  wf := ⟨fun start =>
    have ⟨_, past⟩ := start.clock.exists_lt_now_skip deadline
    acc_of_skip past⟩

end Until
end Clock
end NcpHost
