import NcpHost.Proofs.Bootloader.Marks

/-! The landmarks of a whole text: the header where it first occurs, the first newline
after it, and every prompt after that. The console reads a text in pieces, forgets what
is left of a block and keeps little of what is long. It passes the landmarks all the
same, each of them once. -/
namespace NcpHost.Bootloader
namespace Console

variable {console other : Console} {first : Reading}

theorem advance?_eq_none_iff :
    console.advance? = none ↔ console.stage.rest? console.buffer = none := by
  cases stage : console.stage <;> simp [advance?, Stage.rest?, stage]

theorem past_of_advance? (moves : console.advance? = some first) :
    console.stage.rest? console.buffer = some first.console.buffer ∧
      (first.console.stage, first.events) = console.stage.past := by
  rcases advance?_cases moves with
    ⟨rest, stage, found, rfl⟩ | ⟨line, rest, stage, found, rfl⟩ | ⟨rest, stage, found, rfl⟩
  · exact ⟨by rwa [stage], by rw [stage]; rfl⟩
  · exact ⟨by rw [stage, Stage.rest?, found]; rfl, by rw [stage]; rfl⟩
  · rcases stage with stage | stage <;> exact ⟨by rwa [stage], by rw [stage]; rfl⟩

/-- `console` stands where `other` does, with perhaps less of the text kept. -/
structure Follows (console other : Console) : Prop where
  stage : console.stage = other.stage
  serves : Serves other.stage console.buffer other.buffer

/-- Two readings show the same of the menu, the version apart. -/
structure Reading.Agrees (reading whole : Reading) : Prop where
  events : reading.events = whole.events
  follows : reading.console.Follows whole.console

theorem Reading.Agrees.andThen {reading whole : Reading} {next later : Console → Reading}
    (agrees : reading.Agrees whole)
    (afterwards : (next reading.console).Agrees (later whole.console)) :
    (reading.andThen next).Agrees (whole.andThen later) :=
  ⟨congrArg₂ (· ++ ·) agrees.events afterwards.events, afterwards.follows⟩

/-- What one has passed the other passes at the same place, and it leads both to the same. -/
theorem Follows.advance? {second : Reading} (follows : console.Follows other)
    (moves : console.advance? = some first) (passes : other.advance? = some second) :
    first.Agrees second := by
  obtain ⟨rest, past⟩ := past_of_advance? moves
  obtain ⟨rest', past'⟩ := past_of_advance? passes
  have same : first.console.buffer = second.console.buffer := by
    have here := follows.serves []
    rw [List.append_nil, List.append_nil, ← follows.stage, rest, follows.stage, rest'] at here
    exact Option.some.inj here
  obtain ⟨stage, events⟩ := Prod.mk.inj (past.trans ((congrArg _ follows.stage).trans past'.symm))
  exact ⟨events, stage, same ▸ Serves.refl _ _⟩

theorem Follows.advance?_eq_none_iff (follows : console.Follows other) :
    console.advance? = none ↔ other.advance? = none := by
  have here := follows.serves []
  rw [List.append_nil, List.append_nil] at here
  rw [Console.advance?_eq_none_iff, Console.advance?_eq_none_iff, follows.stage, here]

theorem Follows.scan {console other : Console} (follows : console.Follows other) :
    console.scan.Agrees other.scan := by
  cases moves : console.advance? with
  | none =>
    rw [scan_eq, moves, scan_eq other, follows.advance?_eq_none_iff.mp moves]
    exact ⟨rfl, follows⟩
  | some first =>
    have shorter := length_advance?_lt moves
    obtain ⟨second, passes⟩ : ∃ second, other.advance? = some second :=
      Option.ne_none_iff_exists'.mp (mt follows.advance?_eq_none_iff.mpr (by simp [moves]))
    have agrees := follows.advance? moves passes
    rw [scan_eq, moves, scan_eq other, passes]
    exact agrees.andThen agrees.follows.scan
termination_by console.buffer.length

theorem Follows.extend (follows : console.Follows other) (text : List UInt8) :
    (console.extend text).Agrees (other.extend text) :=
  Follows.scan ⟨follows.stage, follows.serves.append text⟩

theorem extend_nil (settled : console.advance? = none) : console.extend [] = { console } := by
  rw [extend, List.append_nil, scan_eq, settled]
  rfl

theorem extend_zero (settled : console.advance? = none) :
    console.extend [0] = { console := { console with buffer := console.buffer ++ [0] } } := by
  have still : advance? { console with buffer := console.buffer ++ [0] } = none :=
    advance?_eq_none_iff.mpr (Stage.rest?_append_zero (advance?_eq_none_iff.mp settled))
  rw [extend, scan_eq, still]
  rfl

/-- The end of a block is one more byte that matches nothing. -/
theorem Reading.Agrees.cleared {reading : Reading} {text : List UInt8}
    (agrees : reading.Agrees (other.extend text)) :
    reading.cleared.Agrees (other.extend (text ++ [0])) := by
  have settled : (other.extend text).console.advance? = none := advance?_scan _
  rw [extend_append, Reading.andThen, extend_zero settled]
  have events := agrees.events.trans (List.append_nil _).symm
  exact ⟨events, agrees.follows.stage, Serves.clear (advance?_eq_none_iff.mp settled)⟩

theorem Follows.follow (follows : console.Follows other) (text : List UInt8) :
    (console.follow text).Agrees (other.extend text) := by
  induction text using block_induction generalizing console other with
  | last text inside =>
    rw [follow_of_not_mem console inside]
    exact follows.extend text
  | block text rest inside ih =>
    have agrees := (follows.extend text).cleared
    rw [follow_append_cons _ inside, List.append_cons, extend_append]
    exact agrees.andThen (ih agrees.follows)

theorem Follows.trim (follows : console.Follows other) (settled : console.advance? = none) :
    console.trim.Follows other := by
  rcases trim_cases console with same | ⟨-, front, kept, split, enough, same⟩
  · rwa [same]
  · rw [Console.advance?_eq_none_iff, follows.stage, split] at settled
    have serves := follows.serves
    rw [split] at serves
    rw [same]
    exact ⟨follows.stage, (Serves.drop settled enough).trans serves⟩

theorem Follows.receive (follows : console.Follows other) (menu : console.stage.IsMenu)
    (now : Nat) (bytes : List UInt8) :
    (console.receive now bytes).Agrees (other.extend bytes) := by
  have agrees := follows.follow bytes
  rw [receive_of_menu menu]
  exact ⟨agrees.events, agrees.follows.trim (advance?_scan _)⟩

/-- Reads pieces of text, each with the time at which it arrived. -/
def receiveAll (console : Console) : List (Nat × List UInt8) → Reading
  | [] => { console }
  | (now, bytes) :: later =>
    (console.receive now bytes).andThen fun console => console.receiveAll later

/-- However a text is cut, what it shows of the menu is what a scan of all of it shows. -/
theorem Follows.receiveAll (follows : console.Follows other) (menu : console.stage.IsMenu)
    (arrivals : List (Nat × List UInt8)) (settled : other.advance? = none) :
    (console.receiveAll arrivals).Agrees (other.extend (arrivals.flatMap Prod.snd)) := by
  induction arrivals generalizing console other with
  | nil =>
    rw [List.flatMap_nil, extend_nil settled]
    exact ⟨rfl, follows⟩
  | cons arrival later ih =>
    obtain ⟨now, bytes⟩ := arrival
    have agrees := follows.receive menu now bytes
    rw [List.flatMap_cons, extend_append]
    exact agrees.andThen (ih agrees.follows (menu_of_receive menu now bytes) (advance?_scan _))

section Whole

variable {front line text rest : List UInt8}

/-- Past the header's line, every prompt shows. -/
theorem scan_prompts (console : Console) (past : console.stage.PastLine) :
    console.scan.events =
        List.replicate (occurrences prompt console.buffer) .promptDetected ∧
      console.scan.console.stage =
        if prompt <:+: console.buffer then .promptSeen else console.stage := by
  cases found : after? prompt console.buffer with
  | none =>
    have missing := after?_eq_none_iff.mp found
    have still : console.advance? = none := by
      rcases past with stage | stage <;> simp [advance?, stage, found]
    rw [scan_eq, still, occurrences_eq_zero_iff.mpr missing, if_neg missing]
    exact ⟨rfl, rfl⟩
  | some rest =>
    have shorter := length_after?_lt (by decide) found
    have shown : prompt <:+: console.buffer := by
      by_contra missing
      cases found.symm.trans (after?_eq_none_iff.mpr missing)
    have moves : console.advance? = some
        { console := { console with stage := .promptSeen, buffer := rest }
          events := [.promptDetected] } := by
      rcases past with stage | stage <;> simp [advance?, stage, found]
    obtain ⟨events, stage⟩ :=
      scan_prompts { console with stage := .promptSeen, buffer := rest } (.inr rfl)
    rw [scan_eq, moves, occurrences_prompt found, if_pos shown, List.replicate_succ]
    exact ⟨congrArg (ConsoleEvent.promptDetected :: ·) events, stage.trans (ite_self _)⟩
termination_by console.buffer.length

theorem scan_header (console : Console) (found : after? header text = some rest) :
    scan { console with stage := .probing, buffer := text } =
      scan { console with stage := .headerSeen, buffer := rest } := by
  rw [scan_eq]
  simp [advance?, found, Reading.andThen]

theorem scan_line (console : Console) (free : newline ∉ line) (menu : List UInt8) :
    let reading := scan { console with stage := .headerSeen, buffer := line ++ newline :: menu }
    reading.events = List.replicate (occurrences prompt menu) .promptDetected ∧
      reading.console.stage = if prompt <:+: menu then .promptSeen else .contentSeen := by
  intro reading
  have moves : advance? { console with stage := .headerSeen, buffer := line ++ newline :: menu } =
      some
        { console := { console with
            stage := .contentSeen
            buffer := menu
            version := (versionOf line).or console.version }
          notes := [.bootloaderDetected (versionOf line)] } := by
    rw [Console.advance?, line?_of_not_mem free]
    rfl
  have prompts := scan_prompts
    { console with
      stage := .contentSeen
      buffer := menu
      version := (versionOf line).or console.version } (.inl rfl)
  unfold reading
  rw [scan_eq, moves]
  exact prompts

/-- The header, where it first occurs, the end of its line, and a prompt after that. -/
def ShowsMenu (text : List UInt8) : Prop :=
  ∃ front line menu, FirstMark header text front (line ++ newline :: menu) ∧ newline ∉ line ∧
    prompt <:+: menu

/-- A scan of a text from the probe on reaches the prompt only past all of the landmarks. -/
theorem showsMenu_of_scan {console : Console}
    (shown : (scan { console with stage := .probing, buffer := text }).console.stage =
      .promptSeen) : ShowsMenu text := by
  cases found : after? header text with
  | none =>
    have still : advance? { console with stage := .probing, buffer := text } = none := by
      rw [Console.advance?, found]
      rfl
    rw [scan_eq, still] at shown
    cases shown
  | some rest =>
    obtain ⟨front, mark⟩ := after?_first found
    rw [scan_header console found] at shown
    by_cases ended : newline ∈ rest
    · obtain ⟨line, menu, rfl, free⟩ := List.eq_append_cons_of_mem ended
      rw [(scan_line console free menu).2] at shown
      split at shown
      · next prompted => exact ⟨front, line, menu, mark, free, prompted⟩
      · cases shown
    · have still : advance? { console with stage := .headerSeen, buffer := rest } = none := by
        rw [Console.advance?, line?_eq_none_iff.mpr ended]
        rfl
      rw [scan_eq, still] at shown
      cases shown

theorem extend_unmatched (console : Console) (empty : console.buffer = [])
    (unmatched : console.stage.rest? text = none) :
    console.extend text = { console := { console with buffer := text } } := by
  have still : advance? { console with buffer := text } = none :=
    advance?_eq_none_iff.mpr unmatched
  rw [extend, empty, List.nil_append, scan_eq, still]
  rfl

/-- Of text in which nothing is found, its last block is kept. -/
theorem follow_unmatched (console : Console) (empty : console.buffer = [])
    (unmatched : console.stage.rest? text = none) :
    console.follow text = { console := { console with buffer := lastBlock text } } := by
  induction text using block_induction generalizing console with
  | last text inside =>
    rw [follow_of_not_mem console inside, lastBlock_of_not_mem inside,
      extend_unmatched console empty unmatched]
  | block text rest inside ih =>
    have early := Stage.rest?_of_infix (List.prefix_append _ _).isInfix unmatched
    have later : console.stage.rest? rest = none := by
      rw [← unmatched, List.append_cons, ← Serves.clear early rest, List.nil_append]
    rw [follow_append_cons _ inside, extend_unmatched console empty early, lastBlock_append_zero]
    exact ih { console with buffer := [] } rfl later

/-- A landmark is passed with its last byte. -/
theorem follow_passes (console : Console) {byte : UInt8} (empty : console.buffer = [])
    (unmatched : console.stage.rest? text = none) (inside : byte ≠ 0)
    (moves : advance? { console with buffer := lastBlock text ++ [byte] } = some first)
    (ends : first.console.buffer = []) : console.follow (text ++ [byte]) = first := by
  have single : 0 ∉ [byte] := by simpa using inside.symm
  have still : first.console.advance? = none := by
    rw [advance?_eq_none_iff, ends]
    cases first.console.stage <;> rfl
  rw [follow_append, follow_unmatched console empty unmatched, Reading.andThen,
    follow_of_not_mem _ single, Console.extend, scan_eq, moves]
  simp [Reading.andThen, scan_eq first.console, still]

theorem follow_header (console : Console) (mark : FirstMark header text front rest) :
    follow { console with stage := .probing, buffer := [] } (front ++ header) =
      { console := { console with stage := .headerSeen, buffer := [] } } := by
  have unmatched : Stage.probing.rest? (front ++ header.dropLast) = none :=
    mark.after?_dropLast (by decide)
  have split : front ++ header = front ++ header.dropLast ++ [0x72] := by simp [header]
  have kept : after? header (lastBlock (front ++ header.dropLast) ++ [0x72]) = some [] := by
    have whole := mark.start.found
    rw [split] at whole
    exact (Serves.lastBlock unmatched [0x72]).trans whole
  rw [split]
  exact follow_passes _ rfl unmatched (by decide) (by rw [Console.advance?, kept]; rfl) rfl

theorem follow_line (console : Console) (free : newline ∉ line) :
    follow { console with stage := .headerSeen, buffer := [] } (line ++ [newline]) =
      { console := { console with
          stage := .contentSeen
          buffer := []
          version := (versionOf (lastBlock line)).or console.version }
        notes := [.bootloaderDetected (versionOf (lastBlock line))] } := by
  have unmatched : Stage.headerSeen.rest? line = none :=
    Option.map_eq_none_iff.mpr (line?_eq_none_iff.mpr free)
  have kept : newline ∉ lastBlock line :=
    fun member => free ((List.rtakeWhile_suffix _ line).subset member)
  exact follow_passes _ rfl unmatched (by decide)
    (by rw [Console.advance?, line?_of_not_mem kept]; rfl) rfl

/-- The version is what the header's line holds of its last block. -/
theorem follow_version (console : Console) {menu : List UInt8}
    (mark : FirstMark header text front (line ++ newline :: menu)) (free : newline ∉ line) :
    let reading := follow { console with stage := .probing, buffer := [] } text
    reading.console.version = (versionOf (lastBlock line)).or console.version ∧
      reading.notes = [.bootloaderDetected (versionOf (lastBlock line))] := by
  intro reading
  have splits : text = front ++ header ++ (line ++ [newline] ++ menu) := by
    rw [mark.splits, ← List.append_cons]
  obtain ⟨-, silent, same⟩ := (Reading.OfMenu.follow
    { console with
      stage := .contentSeen
      buffer := []
      version := (versionOf (lastBlock line)).or console.version } menu).past (.inl rfl)
  unfold reading
  rw [splits, follow_append, follow_header console mark, Reading.andThen, follow_append,
    follow_line console free, Reading.andThen, silent]
  exact ⟨same, rfl⟩

theorem length_scan_le (console : Console) :
    console.scan.console.buffer.length ≤ console.buffer.length := by
  cases moves : console.advance? with
  | none =>
    rw [scan_eq, moves]
    exact Nat.le_refl _
  | some first =>
    have shorter := length_advance?_lt moves
    rw [scan_eq, moves]
    exact (length_scan_le first.console).trans shorter.le
termination_by console.buffer.length

theorem length_extend_le (console : Console) (text : List UInt8) :
    (console.extend text).console.buffer.length ≤ console.buffer.length + text.length := by
  rw [← List.length_append]
  exact length_scan_le { console with buffer := console.buffer ++ text }

theorem length_follow_le (console : Console) (text : List UInt8) :
    (console.follow text).console.buffer.length ≤ console.buffer.length + text.length := by
  induction text using block_induction generalizing console with
  | last text inside =>
    rw [follow_of_not_mem console inside]
    exact length_extend_le console text
  | block text rest inside ih =>
    have later := ih (console.extend text).cleared.console
    rw [follow_append_cons _ inside]
    exact later.trans (by simp [Reading.cleared]; omega)

/-- What fits into the buffer is read as if there were no bound. -/
theorem receiveAll_eq_follow (console : Console) (menu : console.stage.IsMenu)
    (settled : console.advance? = none) (arrivals : List (Nat × List UInt8))
    (fits : console.buffer.length + (arrivals.flatMap Prod.snd).length ≤ maxBuffer) :
    console.receiveAll arrivals = console.follow (arrivals.flatMap Prod.snd) := by
  induction arrivals generalizing console with
  | nil =>
    rw [List.flatMap_nil, follow_of_not_mem console List.not_mem_nil, extend_nil settled]
    rfl
  | cons arrival later ih =>
    obtain ⟨now, bytes⟩ := arrival
    simp only [List.flatMap_cons, List.length_append] at fits ⊢
    have size := length_follow_le console bytes
    have within : (console.follow bytes).console.trim = (console.follow bytes).console := by
      rw [trim, if_neg (by omega)]
    have first : console.receive now bytes = console.follow bytes := by
      rw [receive_of_menu menu, within]
    have rest := ih _ ((Reading.OfMenu.follow console bytes).menu menu) (advance?_scan _) (by omega)
    rw [follow_append, receiveAll, first, Reading.andThen, Reading.andThen, rest]

end Whole

/-- However a text comes, of the menu it shows what it contains: the header where that
first occurs, the newline after it, and each prompt after that. A zero byte is one more
byte that matches nothing. Of a text that fits into the buffer, the version is what the
header's line holds of its last block. -/
theorem landmarks_passed (console : Console) (arrivals : List (Nat × List UInt8)) :
    let reading := receiveAll { console with stage := .probing, buffer := [] } arrivals
    let text := arrivals.flatMap Prod.snd
    (¬ header <:+: text ∧ reading.console.stage = .probing ∧ reading.events = []) ∨
    (∃ front rest, FirstMark header text front rest ∧ newline ∉ rest ∧
      reading.console.stage = .headerSeen ∧ reading.events = []) ∨
    (∃ front line menu, FirstMark header text front (line ++ newline :: menu) ∧ newline ∉ line ∧
      reading.console.stage = (if prompt <:+: menu then .promptSeen else .contentSeen) ∧
      reading.events = List.replicate (occurrences prompt menu) .promptDetected ∧
      (text.length ≤ maxBuffer →
        reading.console.version = (versionOf (lastBlock line)).or console.version ∧
        reading.notes = [.bootloaderDetected (versionOf (lastBlock line))])) := by
  intro reading text
  have settled : advance? { console with stage := .probing, buffer := [] } = none := rfl
  have start : Follows { console with stage := .probing, buffer := [] }
      { console with stage := .probing, buffer := [] } := ⟨rfl, Serves.refl _ _⟩
  obtain ⟨events, stage, -⟩ := start.receiveAll trivial arrivals settled
  change reading.events = (scan { console with stage := .probing, buffer := text }).events at events
  change reading.console.stage =
    (scan { console with stage := .probing, buffer := text }).console.stage at stage
  cases found : after? header text with
  | none =>
    have still : advance? { console with stage := .probing, buffer := text } = none := by
      rw [Console.advance?, found]
      rfl
    rw [scan_eq, still] at events stage
    exact .inl ⟨after?_eq_none_iff.mp found, stage, events⟩
  | some rest =>
    obtain ⟨front, mark⟩ := after?_first found
    rw [scan_header console found] at events stage
    by_cases ended : newline ∈ rest
    · obtain ⟨line, menu, rfl, free⟩ := List.eq_append_cons_of_mem ended
      obtain ⟨prompts, reached⟩ := scan_line console free menu
      refine .inr (.inr ⟨front, line, menu, mark, free, ?_⟩)
      refine ⟨stage.trans reached, events.trans prompts, ?_⟩
      intro fits
      have whole : reading = follow { console with stage := .probing, buffer := [] } text :=
        receiveAll_eq_follow { console with stage := .probing, buffer := [] } trivial settled
          arrivals ((Nat.zero_add _).trans_le fits)
      rw [whole]
      exact follow_version console mark free
    · have still : advance? { console with stage := .headerSeen, buffer := rest } = none := by
        rw [Console.advance?, line?_eq_none_iff.mpr ended]
        rfl
      rw [scan_eq, still] at events stage
      exact .inr (.inl ⟨front, rest, mark, ended, stage, events⟩)

/-- A zero byte within the header's line cuts the version short, and a prompt that comes
in two pieces is one prompt. -/
example :
    let reading := receiveAll { stage := .probing }
      [(0, header ++ [0x76, 0x31, 0x00, 0x76]), (1, [0x32, newline, 0x42]), (2, [0x4C, 0x20, 0x3E])]
    reading.events = [.promptDetected] ∧ reading.console.version = some "v2" := by cbv

end Console
end NcpHost.Bootloader
