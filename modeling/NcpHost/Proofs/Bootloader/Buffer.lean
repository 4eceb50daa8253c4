import NcpHost.Bootloader.Run
import NcpHost.Proofs.Bootloader.Landmarks

/-! What a console has in its buffer between two operations: text of the menu's current block,
without anything in it that was waited for, and no more than there is room for. Reading goes
forward in the dialogue; it keeps ends of the text, in which there is nothing to be found that
was not in the whole. -/
namespace NcpHost.Bootloader

theorem suffix_line? {text line rest : List UInt8} (found : line? text = some (line, rest)) :
    rest <:+ text := by
  by_cases ends : newline ∈ text
  · obtain ⟨front, back, rfl, free⟩ := List.eq_append_cons_of_mem ends
    rw [line?_of_not_mem free] at found
    obtain ⟨rfl, rfl⟩ := Prod.mk.inj (Option.some.inj found)
    exact ⟨front ++ [newline], by simp⟩
  · rw [line?_eq_none_iff.mpr ends] at found
    cases found

theorem suffix_after? {mark text rest : List UInt8} (found : after? mark text = some rest) :
    rest <:+ text := by
  obtain ⟨front, rfl⟩ := after?_eq_some found
  exact List.suffix_append _ _

theorem Stage.suffix_rest? {stage : Stage} {text rest : List UInt8}
    (found : stage.rest? text = some rest) : rest <:+ text := by
  cases stage with
  | flushing | awaitingReceiver | transferring => cases found
  | probing | contentSeen | promptSeen => exact suffix_after? found
  | headerSeen =>
    obtain ⟨⟨line, other⟩, ends, rfl⟩ := Option.map_eq_some_iff.mp found
    exact suffix_line? ends

theorem Stage.rank_le_past (stage : Stage) : stage.rank ≤ stage.past.1.rank := by
  cases stage <;> decide

theorem Stage.rest?_nil (stage : Stage) : stage.rest? [] = none := by
  cases stage <;> rfl

namespace Console

variable {console : Console}

/-! Reading goes forward. -/

/-- The dialogue has gone no step back, and an end of the buffer is kept. -/
structure Reading.Forward (console : Console) (reading : Reading) : Prop where
  rank : console.stage.rank ≤ reading.console.stage.rank
  kept : reading.console.buffer <:+ console.buffer

theorem Reading.Forward.advance? {first : Reading} (moves : console.advance? = some first) :
    Forward console first := by
  obtain ⟨rest, past⟩ := past_of_advance? moves
  refine ⟨?_, Stage.suffix_rest? rest⟩
  rw [(Prod.mk.inj past).1]
  exact console.stage.rank_le_past

theorem Reading.Forward.scan (console : Console) : Forward console console.scan := by
  cases moves : console.advance? with
  | none =>
    rw [scan_eq, moves]
    exact ⟨Nat.le_refl _, List.suffix_refl _⟩
  | some first =>
    have shorter := length_advance?_lt moves
    have step := Forward.advance? moves
    have rest := Forward.scan first.console
    rw [scan_eq, moves]
    exact ⟨step.rank.trans rest.rank, rest.kept.trans step.kept⟩
termination_by console.buffer.length

theorem Reading.Forward.extend (console : Console) (text : List UInt8) :
    Forward { console with buffer := console.buffer ++ text } (console.extend text) :=
  scan { console with buffer := console.buffer ++ text }

theorem rank_follow (console : Console) (text : List UInt8) :
    console.stage.rank ≤ (console.follow text).console.stage.rank := by
  induction text using block_induction generalizing console with
  | last text inside =>
    rw [follow_of_not_mem console inside]
    exact (Reading.Forward.extend console text).rank
  | block text rest inside ih =>
    have later := ih (console.extend text).cleared.console
    rw [follow_append_cons _ inside]
    exact (Reading.Forward.extend console text).rank.trans later

/-- Text is kept without the zero bytes that end its blocks. -/
theorem zero_not_mem_follow (inside : 0 ∉ console.buffer) (text : List UInt8) :
    0 ∉ (console.follow text).console.buffer := by
  induction text using block_induction generalizing console with
  | last text free =>
    rw [follow_of_not_mem console free]
    intro member
    have joined := (Reading.Forward.extend console text).kept.subset member
    exact (List.mem_append.mp joined).elim inside free
  | block text rest free ih =>
    rw [follow_append_cons _ free]
    exact ih List.not_mem_nil

theorem rank_receive (console : Console) (now : Nat) (bytes : List UInt8) :
    console.stage.rank ≤ (console.receive now bytes).console.stage.rank := by
  by_cases menu : console.stage.IsMenu
  · rw [receive_of_menu menu, stage_trim]
    exact rank_follow console bytes
  · cases stage : console.stage with
    | flushing | transferring => simp [receive, stage]
    | awaitingReceiver =>
      simp only [receive, stage]
      split
      · exact Nat.le_succ _
      · exact (congrArg Stage.rank stage).ge
    | probing | headerSeen | contentSeen | promptSeen => simp [stage, Stage.IsMenu] at menu

/-! Operations. -/

/-- How a console is kept between two operations. -/
structure WellKept (console : Console) : Prop where
  outside : ¬ console.stage.IsMenu → console.buffer = []
  inside : 0 ∉ console.buffer
  bounded : console.buffer.length ≤ maxBuffer
  unmatched : console.stage.rest? console.buffer = none
  quiet : console.timer.running = true → console.stage = .flushing

/-- A console without text has only its timer to look after. -/
theorem wellKept_of_empty (empty : console.buffer = [])
    (quiet : console.timer.running = true → console.stage = .flushing) : WellKept console := by
  refine ⟨fun _ => empty, ?_, ?_, ?_, quiet⟩
  all_goals rw [empty]
  · exact List.not_mem_nil
  · exact Nat.zero_le _
  · exact console.stage.rest?_nil

theorem WellKept.empty (wellKept : WellKept console) (flushing : console.stage = .flushing) :
    console.buffer = [] := by
  refine wellKept.outside ?_
  rw [flushing]
  exact id

theorem WellKept.poll (wellKept : WellKept console) (world : World) :
    WellKept (console.poll world).2.1 := by
  by_cases due : (console.timer.running && console.timer.due) = true
  · have collected : console.timer.collect = (true, console.timer.stop) := if_pos due
    simp only [Console.poll, collected]
    split
    · next ended => exact wellKept_of_empty (wellKept.empty ended.2) nofun
    · exact { wellKept with quiet := nofun }
  · have collected : console.timer.collect = (false, console.timer) := if_neg due
    simp only [Console.poll, collected]
    exact wellKept

theorem suffix_trim (console : Console) : console.trim.buffer <:+ console.buffer := by
  unfold trim
  split
  · exact List.drop_suffix _ _
  · exact List.suffix_refl _

theorem length_trim_le (console : Console) : console.trim.buffer.length ≤ maxBuffer := by
  have : header.length ≤ maxBuffer := by decide
  unfold trim
  split
  · rw [List.length_drop]
    omega
  · next fits => exact Nat.le_of_not_lt fits

/-- Text starts the timer during the flush, and does not end the flush. -/
theorem WellKept.quiet_receive (wellKept : WellKept console) (now : Nat) (bytes : List UInt8)
    (runs : (console.receive now bytes).console.timer.running = true) :
    (console.receive now bytes).console.stage = .flushing := by
  refine (stage_receive console now bytes).1.mpr ?_
  rw [timer_receive] at runs
  split at runs
  · next flushing => exact flushing
  · exact wellKept.quiet runs

theorem WellKept.receive (wellKept : WellKept console) (now : Nat) (bytes : List UInt8) :
    WellKept (console.receive now bytes).console := by
  have quiet := wellKept.quiet_receive now bytes
  by_cases menu : console.stage.IsMenu
  · have still := menu_of_receive menu now bytes
    rw [receive_of_menu menu] at quiet still ⊢
    -- What is left has been scanned to its end, and `trim` only drops the beginning of it.
    have kept := suffix_trim (console.follow bytes).console
    have settled : (console.follow bytes).console.advance? = none := advance?_scan _
    refine ⟨fun other => absurd still other, ?_, length_trim_le _, ?_, quiet⟩
    · exact fun member => zero_not_mem_follow wellKept.inside bytes (kept.subset member)
    · rw [stage_trim]
      exact Stage.rest?_of_infix kept.isInfix (advance?_eq_none_iff.mp settled)
  · obtain ⟨-, -, same⟩ := outside_of_not_menu menu now bytes
    exact wellKept_of_empty (same.trans (wellKept.outside menu)) quiet

theorem WellKept.choose (wellKept : WellKept console) (world : World) (entry : MenuEntry) :
    WellKept (console.choose world entry).2.1 := by
  unfold Console.choose
  split
  · next shown =>
    split
    · exact wellKept
    · cases entry with
      | run => exact wellKept_of_empty rfl nofun
      | upload =>
        refine wellKept_of_empty rfl fun runs => ?_
        exact nomatch shown.symm.trans (wellKept.quiet runs)
  · exact wellKept

theorem apply_poll (console : Console) (world : World) :
    (console.apply world .poll).2 = (console.poll world).2 := by
  simp only [apply]
  split <;> next polled => rw [polled]

theorem apply_choose (console : Console) (world : World) (entry : MenuEntry) :
    (console.apply world (.choose entry)).2 = (console.choose world entry).2 := by
  simp only [apply]
  split <;> next chosen => rw [chosen]

theorem WellKept.apply (wellKept : WellKept console) (world : World) (operation : Operation) :
    WellKept (console.apply world operation).2.1 := by
  cases operation with
  | reset | detach => exact wellKept_of_empty rfl fun _ => rfl
  | fire => exact { wellKept with quiet := wellKept.quiet }
  | receive bytes => exact wellKept.receive world.now bytes
  | port change => exact wellKept
  | poll =>
    rw [apply_poll]
    exact wellKept.poll world
  | choose entry =>
    rw [apply_choose]
    exact wellKept.choose world entry

theorem WellKept.run (wellKept : WellKept console) (world : World) (history : List Operation) :
    WellKept (console.run world history).1 := by
  induction history generalizing console world with
  | nil => exact wellKept
  | cons operation later ih => exact ih (wellKept.apply world operation) _

/-- Over any history, whatever arrives in whatever pieces and whatever the port refuses: the
buffer is empty outside the menu; it has no zero byte in it and is within its bound; it does
not hold the header while that is waited for, nor the end of the header's line after that, nor
a prompt later on; the quiet timer runs only during the flush. Bytes that arrive next take the
dialogue no step back. -/
theorem console_well_kept (quietMs : Nat) (world : World) (history : List Operation) :
    let console := (run { quietMs } world history).1
    (console.stage = .flushing ∨ console.stage = .awaitingReceiver ∨
      console.stage = .transferring → console.buffer = []) ∧
    0 ∉ console.buffer ∧
    console.buffer.length ≤ maxBuffer ∧
    (console.stage = .probing → ¬ header <:+: console.buffer) ∧
    (console.stage = .headerSeen → newline ∉ console.buffer) ∧
    (console.stage = .contentSeen ∨ console.stage = .promptSeen →
      ¬ prompt <:+: console.buffer) ∧
    (console.timer.running = true → console.stage = .flushing) ∧
    ∀ now bytes, console.stage.rank ≤ (console.receive now bytes).console.stage.rank := by
  intro console
  have start : WellKept { quietMs } := wellKept_of_empty rfl nofun
  have wellKept : WellKept console := start.run world history
  have unmatched := wellKept.unmatched
  refine ⟨fun stage => wellKept.outside ?_, wellKept.inside, wellKept.bounded, ?_, ?_, ?_,
    wellKept.quiet, console.rank_receive⟩
  · rcases stage with stage | stage | stage <;> simp [stage, Stage.IsMenu]
  · intro stage
    rw [stage] at unmatched
    exact after?_eq_none_iff.mp unmatched
  · intro stage
    rw [stage] at unmatched
    exact line?_eq_none_iff.mp (Option.map_eq_none_iff.mp unmatched)
  · intro stage
    rcases stage with stage | stage
    all_goals
      rw [stage] at unmatched
      exact after?_eq_none_iff.mp unmatched

end Console
end NcpHost.Bootloader
