import Mathlib.Data.List.TakeWhile
import NcpHost.Bootloader.Console

/-! The console's text read in pieces. What is followed of a text does not depend on
where it is cut, and not on how much of the unmatched text is kept between two pieces,
as long as a mark's length of it is; but for the version, which is a whole line. -/
namespace NcpHost.Bootloader

/-- Stages at which the menu is read. -/
def Stage.IsMenu : Stage → Prop
  | .probing | .headerSeen | .contentSeen | .promptSeen => True
  | .flushing | .awaitingReceiver | .transferring => False

/-- Stages at which the menu has been read past its header's line. -/
def Stage.PastLine (stage : Stage) : Prop := stage = .contentSeen ∨ stage = .promptSeen

section Marks

variable {mark text rest more : List UInt8}

theorem after?_eq_some (found : after? mark text = some rest) :
    ∃ front, text = front ++ mark ++ rest := by
  induction text with
  | nil =>
    unfold after? at found
    split at found
    · next empty =>
      obtain rfl := List.isEmpty_iff.mp empty
      obtain rfl := Option.some.inj found
      exact ⟨[], rfl⟩
    · cases found
  | cons byte tail ih =>
    unfold after? at found
    split at found
    · next here =>
      obtain ⟨later, same⟩ := List.isPrefixOf_iff_prefix.mp here
      obtain rfl := Option.some.inj found
      exact ⟨[], by rw [← same, List.drop_left, List.nil_append]⟩
    · obtain ⟨front, rfl⟩ := ih found
      exact ⟨byte :: front, rfl⟩

theorem after?_of_start (here : mark <+: text) :
    after? mark text = some (text.drop mark.length) := by
  cases text with
  | nil =>
    obtain rfl := List.prefix_nil.mp here
    rfl
  | cons byte tail => rw [after?, if_pos (List.isPrefixOf_iff_prefix.mpr here)]

/-- A mark that does not fit into `text` is not found at its start, whatever follows. -/
theorem after?_cons_append {byte : UInt8} (elsewhere : ¬ mark <+: byte :: text)
    (fits : mark.length ≤ text.length + 1) :
    after? mark (byte :: (text ++ more)) = after? mark (text ++ more) := by
  rw [after?, if_neg]
  intro here
  have inside : byte :: text <+: byte :: (text ++ more) := List.prefix_append (byte :: text) more
  exact elsewhere
    (List.prefix_of_prefix_length_le (List.isPrefixOf_iff_prefix.mp here) inside fits)

theorem after?_append (found : after? mark text = some rest) (more : List UInt8) :
    after? mark (text ++ more) = some (rest ++ more) := by
  induction text with
  | nil =>
    obtain ⟨front, split⟩ := after?_eq_some found
    obtain ⟨rfl, rfl, rfl⟩ : front = [] ∧ mark = [] ∧ rest = [] := by simpa using split
    exact after?_of_start List.nil_prefix
  | cons byte tail ih =>
    by_cases here : mark <+: byte :: tail
    · rw [after?_of_start here] at found
      obtain rfl := Option.some.inj found
      rw [after?_of_start (here.trans (List.prefix_append _ more)),
        List.drop_append_of_le_length here.length_le]
    · have later : after? mark tail = some rest := by
        rwa [after?, if_neg (mt List.isPrefixOf_iff_prefix.mp here)] at found
      obtain ⟨front, rfl⟩ := after?_eq_some later
      rw [List.cons_append, after?_cons_append here (by simp; omega), ih later]

/-- Text in which the mark does not occur can be dropped, but for a mark's length. -/
theorem after?_drop {front kept : List UInt8} (unmatched : after? mark (front ++ kept) = none)
    (enough : mark.length ≤ kept.length + 1) (more : List UInt8) :
    after? mark (front ++ kept ++ more) = after? mark (kept ++ more) := by
  induction front with
  | nil => rfl
  | cons byte front ih =>
    have elsewhere : ¬ mark <+: byte :: (front ++ kept) := by
      intro here
      rw [List.cons_append, after?_of_start here] at unmatched
      cases unmatched
    rw [List.cons_append, after?, if_neg (mt List.isPrefixOf_iff_prefix.mp elsewhere)] at unmatched
    rw [List.cons_append, List.cons_append,
      after?_cons_append elsewhere (by simp; omega), ih unmatched]

theorem decide_ne_of_not_mem {byte : UInt8} (free : byte ∉ text) :
    ∀ other ∈ text, decide (other ≠ byte) = true := by
  intro other member
  exact decide_eq_true fun same => free (same ▸ member)

theorem line?_of_not_mem {line : List UInt8} (free : newline ∉ line) (rest : List UInt8) :
    line? (line ++ newline :: rest) = some (line, rest) := by
  have each := decide_ne_of_not_mem free
  rw [line?, List.dropWhile_append_of_pos each, List.takeWhile_append_of_pos each]
  simp

theorem line?_eq_none_iff : line? text = none ↔ newline ∉ text := by
  constructor
  · intro nothing member
    obtain ⟨front, back, rfl, free⟩ := List.eq_append_cons_of_mem member
    cases nothing.symm.trans (line?_of_not_mem free back)
  · intro free
    rw [line?, List.dropWhile_eq_nil_iff.mpr (decide_ne_of_not_mem free)]

theorem line?_append {line : List UInt8} (found : line? text = some (line, rest))
    (more : List UInt8) : line? (text ++ more) = some (line, rest ++ more) := by
  by_cases ends : newline ∈ text
  · obtain ⟨front, back, rfl, free⟩ := List.eq_append_cons_of_mem ends
    rw [line?_of_not_mem free] at found
    obtain ⟨rfl, rfl⟩ := Prod.mk.inj (Option.some.inj found)
    rw [List.append_assoc, List.cons_append, line?_of_not_mem free]
  · rw [line?_eq_none_iff.mpr ends] at found
    cases found

end Marks

/-- A line that begins with a character to be seen tells a version. -/
theorem versionOf_ne_none {byte : UInt8} (single : byte < 0x80)
    (shown : Text.Blank.isBlank (Char.ofNat byte.toNat) = false) (rest : List UInt8) :
    versionOf (byte :: rest) ≠ none := by
  have decoded : Text.Utf8.decode (byte :: rest) =
      Char.ofNat byte.toNat :: Text.Utf8.decode rest := by
    simp [Text.Utf8.decode, Text.Utf8.scan, Text.Utf8.step, Text.Utf8.start, Text.Utf8.lead,
      single]
  have kept : Text.Blank.trim (Text.Utf8.decode (byte :: rest)) ≠ [] := by
    rw [decoded, Text.Blank.trim, List.dropWhile_cons_of_neg (by simp [shown])]
    intro nothing
    have blank := List.dropWhile_eq_nil_iff.mp (List.reverse_eq_nil_iff.mp nothing)
    have first := blank (Char.ofNat byte.toNat) (by simp)
    exact Bool.false_ne_true (shown.symm.trans first)
  simp [versionOf, kept]

namespace Console

/-- One reading after the other. -/
def Reading.andThen (reading : Reading) (next : Console → Reading) : Reading :=
  let later := next reading.console
  { later with
    events := reading.events ++ later.events
    notes := reading.notes ++ later.notes }

theorem Reading.andThen_andThen (reading : Reading) (next later : Console → Reading) :
    (reading.andThen next).andThen later =
      reading.andThen fun console => (next console).andThen later := by
  simp [Reading.andThen, List.append_assoc]

/-- What is followed first: the header, the end of its line, or one prompt. -/
def advance? (console : Console) : Option Reading :=
  match console.stage with
  | .probing =>
    (after? header console.buffer).map fun rest =>
      { console := { console with stage := .headerSeen, buffer := rest } }
  | .headerSeen =>
    (line? console.buffer).map fun (line, rest) =>
      { console := { console with
          stage := .contentSeen
          buffer := rest
          version := (versionOf line).or console.version }
        notes := [.bootloaderDetected (versionOf line)] }
  | .contentSeen | .promptSeen =>
    (after? prompt console.buffer).map fun rest =>
      { console := { console with stage := .promptSeen, buffer := rest }
        events := [.promptDetected] }
  | .flushing | .awaitingReceiver | .transferring => none

variable {console : Console} {first : Reading}

/-- To scan is to advance as long as that is possible. -/
theorem scan_eq (console : Console) :
    scan console = console.advance?.elim { console } fun first => first.andThen scan := by
  fun_cases scan console with
  | case1 stage missing | case3 stage missing | case5 stage missing | case7 stage missing =>
    simp [advance?, stage, missing]
  | case2 stage rest found => simp [advance?, stage, found, Reading.andThen]
  | case4 stage line rest found later =>
    simp only [advance?, stage, found]
    rfl
  | case6 stage rest found later | case8 stage rest found later =>
    simp only [advance?, stage, found]
    rfl
  | case9 stage | case10 stage | case11 stage => simp [advance?, stage]

theorem advance?_cases (moves : console.advance? = some first) :
    (∃ rest, console.stage = .probing ∧ after? header console.buffer = some rest ∧
      first = { console := { console with stage := .headerSeen, buffer := rest } }) ∨
    (∃ line rest, console.stage = .headerSeen ∧ line? console.buffer = some (line, rest) ∧
      first =
        { console := { console with
            stage := .contentSeen
            buffer := rest
            version := (versionOf line).or console.version }
          notes := [.bootloaderDetected (versionOf line)] }) ∨
    (∃ rest, (console.stage = .contentSeen ∨ console.stage = .promptSeen) ∧
      after? prompt console.buffer = some rest ∧
      first =
        { console := { console with stage := .promptSeen, buffer := rest }
          events := [.promptDetected] }) := by
  cases stage : console.stage with
  | flushing | awaitingReceiver | transferring => simp [advance?, stage] at moves
  | probing =>
    simp only [advance?, stage, Option.map_eq_some_iff] at moves
    obtain ⟨rest, found, rfl⟩ := moves
    exact .inl ⟨rest, rfl, found, rfl⟩
  | headerSeen =>
    simp only [advance?, stage, Option.map_eq_some_iff] at moves
    obtain ⟨⟨line, rest⟩, found, rfl⟩ := moves
    exact .inr (.inl ⟨line, rest, rfl, found, rfl⟩)
  | contentSeen | promptSeen =>
    simp only [advance?, stage, Option.map_eq_some_iff] at moves
    obtain ⟨rest, found, rfl⟩ := moves
    exact .inr (.inr ⟨rest, by simp, found, rfl⟩)

theorem length_advance?_lt (moves : console.advance? = some first) :
    first.console.buffer.length < console.buffer.length := by
  rcases advance?_cases moves with
    ⟨rest, -, found, rfl⟩ | ⟨line, rest, -, found, rfl⟩ | ⟨rest, -, found, rfl⟩
  · exact length_after?_lt (by decide) found
  · exact length_line?_lt found
  · exact length_after?_lt (by decide) found

theorem advance?_append (moves : console.advance? = some first) (more : List UInt8) :
    advance? { console with buffer := console.buffer ++ more } =
      some { first with console.buffer := first.console.buffer ++ more } := by
  rcases advance?_cases moves with
    ⟨rest, stage, found, rfl⟩ | ⟨line, rest, stage, found, rfl⟩ | ⟨rest, stage, found, rfl⟩
  · simp [advance?, stage, after?_append found]
  · simp [advance?, stage, line?_append found]
  · rcases stage with stage | stage <;> simp [advance?, stage, after?_append found]

/-- Text that comes later is followed from where the text before it has led. -/
theorem scan_append (console : Console) (more : List UInt8) :
    scan { console with buffer := console.buffer ++ more } =
      (scan console).andThen fun console => console.extend more := by
  cases moves : console.advance? with
  | none =>
    rw [scan_eq console, moves]
    rfl
  | some first =>
    have shorter := length_advance?_lt moves
    have later := scan_append first.console more
    rw [scan_eq console, moves, scan_eq, advance?_append moves more]
    simp only [Option.elim_some, Reading.andThen_andThen]
    simp only [Reading.andThen, later]
termination_by console.buffer.length

theorem extend_append (console : Console) (front back : List UInt8) :
    console.extend (front ++ back) =
      (console.extend front).andThen fun console => console.extend back := by
  rw [extend, ← List.append_assoc]
  exact scan_append { console with buffer := console.buffer ++ front } back

/-- What is scanned has nothing left to follow. -/
theorem advance?_scan (console : Console) : (scan console).console.advance? = none := by
  cases moves : console.advance? with
  | none =>
    rw [scan_eq console, moves]
    exact moves
  | some first =>
    have shorter := length_advance?_lt moves
    rw [scan_eq console, moves]
    exact advance?_scan first.console
termination_by console.buffer.length

theorem blocks_of_not_mem {text : List UInt8} (inside : 0 ∉ text) : blocks text = ([], text) := by
  induction text with
  | nil => rfl
  | cons byte rest ih =>
    obtain ⟨other, later⟩ := List.ne_and_not_mem_of_not_mem_cons inside
    simp [blocks, ih later, Ne.symm other]

theorem blocks_append_cons {text : List UInt8} (inside : 0 ∉ text) (rest : List UInt8) :
    blocks (text ++ 0 :: rest) = (text :: (blocks rest).1, (blocks rest).2) := by
  induction text with
  | nil => simp [blocks]
  | cons byte text ih =>
    obtain ⟨other, later⟩ := List.ne_and_not_mem_of_not_mem_cons inside
    simp [blocks, ih later, Ne.symm other]

/-- Every text is a last block, or a block that ends and a text after it. -/
@[elab_as_elim]
theorem block_induction {motive : List UInt8 → Prop} (last : ∀ text, 0 ∉ text → motive text)
    (block : ∀ text rest, 0 ∉ text → motive rest → motive (text ++ 0 :: rest))
    (text : List UInt8) : motive text := by
  by_cases ends : 0 ∈ text
  · obtain ⟨first, rest, split, inside⟩ := List.eq_append_cons_of_mem ends
    have shorter : rest.length < text.length := by
      rw [split, List.length_append, List.length_cons]
      omega
    rw [split]
    exact block first rest inside (block_induction last block rest)
  · exact last text ends
termination_by text.length

/-- Reads text of the menu without keeping its buffer within bounds. -/
def follow (console : Console) (bytes : List UInt8) : Reading :=
  (console.readBlocks (blocks bytes).1).andThen fun console => console.extend (blocks bytes).2

/-- The end of a block drops what is left of it. -/
def Reading.cleared (reading : Reading) : Reading :=
  { reading with console.buffer := [] }

theorem follow_of_not_mem (console : Console) {text : List UInt8} (inside : 0 ∉ text) :
    console.follow text = console.extend text := by
  rw [follow, blocks_of_not_mem inside]
  rfl

theorem follow_append_cons (console : Console) {text : List UInt8} (inside : 0 ∉ text)
    (rest : List UInt8) :
    console.follow (text ++ 0 :: rest) =
      (console.extend text).cleared.andThen fun console => console.follow rest := by
  simp only [follow, blocks_append_cons inside, readBlocks, Reading.andThen, Reading.cleared,
    List.append_assoc]

/-- Where a text is cut makes no difference. -/
theorem follow_append (console : Console) (front back : List UInt8) :
    console.follow (front ++ back) =
      (console.follow front).andThen fun console => console.follow back := by
  induction front using block_induction generalizing console with
  | block text rest inside ih =>
    simp only [List.append_assoc, List.cons_append, follow_append_cons _ inside, ih,
      Reading.andThen_andThen]
  | last front ends =>
    rw [follow_of_not_mem console ends]
    by_cases closes : 0 ∈ back
    · obtain ⟨text, rest, rfl, inside⟩ := List.eq_append_cons_of_mem closes
      have joined : 0 ∉ front ++ text := by simp [ends, inside]
      have later : (fun console : Console => console.follow (text ++ 0 :: rest)) = fun console =>
          (console.extend text).cleared.andThen fun console => console.follow rest :=
        funext fun console => follow_append_cons console inside rest
      rw [← List.append_assoc, follow_append_cons _ joined, extend_append, later,
        ← Reading.andThen_andThen]
      rfl
    · have joined : 0 ∉ front ++ back := by simp [ends, closes]
      have later : (fun console : Console => console.follow back) = fun console =>
          console.extend back :=
        funext fun console => follow_of_not_mem console closes
      rw [follow_of_not_mem console joined, extend_append, later]

/-- Text without a match is not needed, but for as much as a mark may begin in. -/
theorem advance?_drop (front kept text : List UInt8)
    (still : advance? { console with buffer := front ++ kept } = none)
    (enough : header.length ≤ kept.length)
    (inLine : console.stage = .headerSeen → newline ∉ text) :
    advance? { console with buffer := front ++ kept ++ text } =
      advance? { console with buffer := kept ++ text } := by
  have shorter : prompt.length ≤ header.length := by decide
  cases stage : console.stage with
  | flushing | awaitingReceiver | transferring => simp only [advance?]
  | probing =>
    simp only [advance?, stage, Option.map_eq_none_iff] at still ⊢
    rw [after?_drop still (by omega)]
  | headerSeen =>
    have free := inLine stage
    simp only [advance?, stage, Option.map_eq_none_iff, line?_eq_none_iff] at still ⊢
    rw [line?_eq_none_iff.mpr (by simp_all), line?_eq_none_iff.mpr (by simp_all)]
  | contentSeen | promptSeen =>
    simp only [advance?, stage, Option.map_eq_none_iff] at still ⊢
    rw [after?_drop still (by omega)]

theorem extend_drop (front kept text : List UInt8)
    (still : advance? { console with buffer := front ++ kept } = none)
    (enough : header.length ≤ kept.length)
    (inLine : console.stage = .headerSeen → newline ∉ text) :
    (extend { console with buffer := front ++ kept } text).cleared =
      (extend { console with buffer := kept } text).cleared := by
  have same := advance?_drop front kept text still enough inLine
  simp only [extend]
  rw [scan_eq, scan_eq { console with buffer := kept ++ text }, same]
  cases advance? { console with buffer := kept ++ text } <;> rfl

theorem follow_drop (front kept text : List UInt8)
    (still : advance? { console with buffer := front ++ kept } = none)
    (enough : header.length ≤ kept.length)
    (inLine : console.stage = .headerSeen → newline ∉ text.takeWhile (· ≠ 0)) :
    (follow { console with buffer := front ++ kept } text).cleared =
      (follow { console with buffer := kept } text).cleared := by
  by_cases ends : 0 ∈ text
  · obtain ⟨first, rest, rfl, inside⟩ := List.eq_append_cons_of_mem ends
    have block : (first ++ 0 :: rest).takeWhile (· ≠ 0) = first := by
      rw [List.takeWhile_append_of_pos (decide_ne_of_not_mem inside)]
      simp
    rw [block] at inLine
    rw [follow_append_cons _ inside, follow_append_cons _ inside,
      extend_drop front kept first still enough inLine]
  · have block : text.takeWhile (· ≠ 0) = text := by
      refine List.takeWhile_eq_self_iff.mpr fun byte member => ?_
      exact decide_eq_true fun same => ends (same ▸ member)
    rw [block] at inLine
    rw [follow_of_not_mem _ ends, follow_of_not_mem _ ends,
      extend_drop front kept text still enough inLine]

/-- What is kept of a text that is too long has room for a mark. -/
theorem trim_cases (console : Console) :
    console.trim = console ∨ maxBuffer < console.buffer.length ∧ ∃ front kept,
      console.buffer = front ++ kept ∧ header.length ≤ kept.length ∧
        console.trim = { console with buffer := kept } := by
  unfold trim
  split
  · next full =>
    let excess := console.buffer.length - header.length
    have split : console.buffer.take excess ++ console.buffer.drop excess = console.buffer :=
      List.take_append_drop _ _
    have enough : header.length ≤ (console.buffer.drop excess).length := by
      have : header.length ≤ maxBuffer := by decide
      rw [List.length_drop]
      omega
    exact .inr ⟨full, _, _, split.symm, enough, rfl⟩
  · exact .inl rfl

theorem follow_trim (text : List UInt8) (still : console.advance? = none)
    (inLine : console.stage = .headerSeen → maxBuffer < console.buffer.length →
      newline ∉ text.takeWhile (· ≠ 0)) :
    (console.trim.follow text).cleared = (console.follow text).cleared := by
  rcases trim_cases console with same | ⟨full, front, kept, split, enough, same⟩
  · rw [same]
  · have settled : advance? { console with buffer := front ++ kept } = none := by
      rw [← split]
      exact still
    have dropped := follow_drop front kept text settled enough fun stage => inLine stage full
    rw [← split] at dropped
    rw [same]
    exact dropped.symm

/-- A reading of the menu. Once a prompt has been shown, the menu stays there and its
version stands. -/
structure Reading.OfMenu (console : Console) (reading : Reading) : Prop where
  menu : console.stage.IsMenu → reading.console.stage.IsMenu
  stays : console.stage = .promptSeen →
    reading.console.stage = .promptSeen ∧ reading.console.version = console.version
  shown : reading.events ≠ [] → reading.console.stage = .promptSeen
  /-- Past the header's line nothing is told of a version. -/
  past : console.stage.PastLine → reading.console.stage.PastLine ∧
    reading.notes = [] ∧ reading.console.version = console.version
  detected : ∀ note ∈ reading.notes, ∃ version, note = .bootloaderDetected version

namespace Reading.OfMenu

variable {reading : Reading}

theorem still (console : Console) : OfMenu console { console } :=
  ⟨id, fun stage => ⟨stage, rfl⟩, fun shown => absurd rfl shown, fun past => ⟨past, rfl, rfl⟩,
    by simp⟩

theorem andThen {next : Console → Reading} (first : OfMenu console reading)
    (second : OfMenu reading.console (next reading.console)) :
    OfMenu console (reading.andThen next) := by
  refine ⟨second.menu ∘ first.menu, ?_, ?_, ?_, ?_⟩
  · intro stage
    obtain ⟨before, same⟩ := first.stays stage
    obtain ⟨after, kept⟩ := second.stays before
    exact ⟨after, kept.trans same⟩
  · intro shown
    by_cases early : reading.events = []
    · refine second.shown fun late => shown ?_
      rw [Reading.andThen, early, late]
      rfl
    · exact (second.stays (first.shown early)).1
  · intro past
    obtain ⟨between, silent, same⟩ := first.past past
    obtain ⟨after, quiet, kept⟩ := second.past between
    exact ⟨after, by rw [Reading.andThen, silent, quiet]; rfl, kept.trans same⟩
  · intro note member
    exact (List.mem_append.mp member).elim (first.detected note) (second.detected note)

theorem cleared (ofMenu : OfMenu console reading) : OfMenu console reading.cleared :=
  ⟨ofMenu.menu, ofMenu.stays, ofMenu.shown, ofMenu.past, ofMenu.detected⟩

theorem advance? (moves : console.advance? = some first) : OfMenu console first := by
  rcases advance?_cases moves with
    ⟨rest, stage, -, rfl⟩ | ⟨line, rest, stage, -, rfl⟩ | ⟨rest, -, -, rfl⟩
  · exact ⟨fun _ => trivial, by simp [stage], by simp, by simp [stage, Stage.PastLine], by simp⟩
  · exact ⟨fun _ => trivial, by simp [stage], by simp, by simp [stage, Stage.PastLine], by simp⟩
  · exact ⟨fun _ => trivial, fun _ => ⟨rfl, rfl⟩, fun _ => rfl, fun _ => ⟨.inr rfl, rfl, rfl⟩,
      by simp⟩

theorem scan (console : Console) : OfMenu console console.scan := by
  cases moves : console.advance? with
  | none =>
    rw [scan_eq, moves]
    exact still console
  | some first =>
    have shorter := length_advance?_lt moves
    rw [scan_eq, moves]
    exact (advance? moves).andThen (scan first.console)
termination_by console.buffer.length

theorem extend (console : Console) (text : List UInt8) : OfMenu console (console.extend text) :=
  have ofMenu := scan { console with buffer := console.buffer ++ text }
  ⟨ofMenu.menu, ofMenu.stays, ofMenu.shown, ofMenu.past, ofMenu.detected⟩

theorem readBlocks (console : Console) (complete : List (List UInt8)) :
    OfMenu console (console.readBlocks complete) := by
  induction complete generalizing console with
  | nil => exact still console
  | cons text more ih =>
    have step : OfMenu console ((console.extend text).cleared.andThen fun console =>
        console.readBlocks more) := (extend console text).cleared.andThen (ih _)
    exact step

theorem follow (console : Console) (bytes : List UInt8) : OfMenu console (console.follow bytes) :=
  (readBlocks console _).andThen (extend _ _)

end Reading.OfMenu

@[simp] theorem stage_trim (console : Console) : console.trim.stage = console.stage := by
  unfold trim
  split <;> rfl

@[simp] theorem version_trim (console : Console) : console.trim.version = console.version := by
  unfold trim
  split <;> rfl

@[simp] theorem timer_trim (console : Console) : console.trim.timer = console.timer := by
  unfold trim
  split <;> rfl

theorem timer_scan (console : Console) : console.scan.console.timer = console.timer := by
  cases moves : console.advance? with
  | none =>
    rw [scan_eq, moves]
    rfl
  | some first =>
    have shorter := length_advance?_lt moves
    have same : first.console.timer = console.timer := by
      rcases advance?_cases moves with ⟨_, -, -, rfl⟩ | ⟨_, _, -, -, rfl⟩ | ⟨_, -, -, rfl⟩
      all_goals rfl
    rw [scan_eq, moves]
    exact (timer_scan first.console).trans same
termination_by console.buffer.length

theorem timer_readBlocks (console : Console) (complete : List (List UInt8)) :
    (console.readBlocks complete).console.timer = console.timer := by
  induction complete generalizing console with
  | nil => rfl
  | cons text more ih => exact (ih _).trans (timer_scan _)

/-- The menu is read without a look at the timer. -/
theorem timer_follow (console : Console) (bytes : List UInt8) :
    (console.follow bytes).console.timer = console.timer :=
  (timer_scan _).trans (timer_readBlocks console _)

theorem receive_of_menu (menu : console.stage.IsMenu) (now : Nat) (bytes : List UInt8) :
    console.receive now bytes =
      { console.follow bytes with console := (console.follow bytes).console.trim } := by
  unfold receive
  split
  all_goals next stage => first
    | rfl
    | (rw [stage] at menu; exact menu.elim)

/-- Outside the menu nothing is told of it. -/
theorem receive_of_not_menu (other : ¬ console.stage.IsMenu) (now : Nat) (bytes : List UInt8) :
    .promptDetected ∉ (console.receive now bytes).events ∧
      (console.receive now bytes).notes = [] := by
  cases stage : console.stage with
  | flushing | transferring => simp [receive, stage]
  | awaitingReceiver =>
    simp only [receive, stage]
    split <;> simp
  | probing | headerSeen | contentSeen | promptSeen => simp [stage, Stage.IsMenu] at other

/-- Nothing leads back to the menu but a reset of the console, and nothing is kept outside it. -/
theorem outside_of_not_menu (other : ¬ console.stage.IsMenu) (now : Nat) (bytes : List UInt8) :
    ¬ (console.receive now bytes).console.stage.IsMenu ∧
      ((console.receive now bytes).console.stage = .flushing → console.stage = .flushing) ∧
      (console.receive now bytes).console.buffer = console.buffer := by
  cases stage : console.stage with
  | flushing | transferring => simp [receive, stage, Stage.IsMenu]
  | awaitingReceiver =>
    simp only [receive, stage]
    split <;> simp [stage, Stage.IsMenu]
  | probing | headerSeen | contentSeen | promptSeen => simp [stage, Stage.IsMenu] at other

/-- Text that is flushed starts the quiet timer again; no other text does. -/
theorem timer_receive (console : Console) (now : Nat) (bytes : List UInt8) :
    (console.receive now bytes).console.timer =
      if console.stage = .flushing then console.timer.start now console.quietMs
      else console.timer := by
  by_cases menu : console.stage.IsMenu
  · have reading : console.stage ≠ .flushing := by
      intro flushing
      rw [flushing] at menu
      exact menu
    rw [receive_of_menu menu, timer_trim, timer_follow, if_neg reading]
  · cases stage : console.stage with
    | flushing | transferring => simp [receive, stage]
    | awaitingReceiver =>
      simp only [receive, stage]
      split <;> rfl
    | probing | headerSeen | contentSeen | promptSeen => simp [stage, Stage.IsMenu] at menu

/-- A prompt is told of only by a console that stands at one when all is read. -/
theorem stage_of_prompt {now : Nat} {bytes : List UInt8}
    (told : .promptDetected ∈ (console.receive now bytes).events) :
    (console.receive now bytes).console.stage = .promptSeen := by
  by_cases menu : console.stage.IsMenu
  · rw [receive_of_menu menu] at told ⊢
    rw [stage_trim]
    exact (Reading.OfMenu.follow console bytes).shown (List.ne_nil_of_mem told)
  · exact absurd told (receive_of_not_menu menu now bytes).1

theorem menu_of_receive (menu : console.stage.IsMenu) (now : Nat) (bytes : List UInt8) :
    (console.receive now bytes).console.stage.IsMenu := by
  rw [receive_of_menu menu, stage_trim]
  exact (Reading.OfMenu.follow console bytes).menu menu

/-- Reading leads neither into the menu nor out of it, and does not end the flush. -/
theorem stage_receive (console : Console) (now : Nat) (bytes : List UInt8) :
    ((console.receive now bytes).console.stage = .flushing ↔ console.stage = .flushing) ∧
      ((console.receive now bytes).console.stage.IsMenu ↔ console.stage.IsMenu) := by
  by_cases menu : console.stage.IsMenu
  · have still := menu_of_receive menu now bytes
    refine ⟨iff_of_false ?_ ?_, iff_of_true still menu⟩
    · intro flushing
      rw [flushing] at still
      exact still
    · intro flushing
      rw [flushing] at menu
      exact menu
  · obtain ⟨outside, before, -⟩ := outside_of_not_menu menu now bytes
    refine ⟨⟨before, fun flushing => ?_⟩, iff_of_false outside menu⟩
    simp only [receive, flushing]

theorem detected_of_receive {now : Nat} {bytes : List UInt8} {note : Note}
    (noted : note ∈ (console.receive now bytes).notes) :
    ∃ version, note = .bootloaderDetected version := by
  by_cases menu : console.stage.IsMenu
  · rw [receive_of_menu menu] at noted
    exact (Reading.OfMenu.follow console bytes).detected note noted
  · rw [(receive_of_not_menu menu now bytes).2] at noted
    cases noted

/-- What comes of bytes in two pieces, if it is what comes of them in one; that is what
`first` says of the first piece, `second` of the other, and `whole` of both. -/
structure Joins (first second whole : Reading) : Prop where
  events : whole.events = first.events ++ second.events
  stage : whole.console.stage = second.console.stage
  version : whole.console.version = second.console.version
  /-- What the first piece tells is not told differently for what follows it. -/
  told : first.events ≠ [] →
    whole.console.stage = first.console.stage ∧ whole.console.version = first.console.version

theorem joins_menu (menu : console.stage.IsMenu) (now afterwards : Nat) (front back : List UInt8)
    (inLine : (console.follow front).console.stage = .headerSeen →
      maxBuffer < (console.follow front).console.buffer.length →
      newline ∉ back.takeWhile (· ≠ 0)) :
    Joins (console.receive now front) ((console.receive now front).console.receive afterwards back)
      (console.receive now (front ++ back)) := by
  have ofFront := Reading.OfMenu.follow console front
  have ofBack := Reading.OfMenu.follow (console.follow front).console back
  have later : (console.follow front).console.trim.stage.IsMenu := by
    rw [stage_trim]
    exact ofFront.menu menu
  have settled : (console.follow front).console.advance? = none := advance?_scan _
  have same := follow_trim back settled inLine
  rw [receive_of_menu menu, receive_of_menu later, receive_of_menu menu, follow_append]
  have events : (follow (console.follow front).console.trim back).events =
      ((console.follow front).console.follow back).events :=
    congrArg (fun reading => reading.events) same
  have stage : (follow (console.follow front).console.trim back).console.stage =
      ((console.follow front).console.follow back).console.stage :=
    congrArg (fun reading => reading.console.stage) same
  have version : (follow (console.follow front).console.trim back).console.version =
      ((console.follow front).console.follow back).console.version :=
    congrArg (fun reading => reading.console.version) same
  refine ⟨?_, ?_, ?_, ?_⟩
  · exact congrArg ((console.follow front).events ++ ·) events.symm
  · simpa [Reading.andThen] using stage.symm
  · simpa [Reading.andThen] using version.symm
  · intro told
    have prompted := ofFront.shown told
    obtain ⟨stays, version⟩ := ofBack.stays prompted
    simpa [Reading.andThen, prompted] using And.intro stays version

/-- Bytes may come in two pieces, unless a piece that announces the receiver goes on with
something else, or a line is cut that is too long to be kept. -/
theorem joins_receive (console : Console) (now afterwards : Nat) (front back : List UInt8)
    (announced : console.stage = .awaitingReceiver → front.getLast? = some receiverReady →
      back = [] ∨ back.getLast? = some receiverReady)
    (inLine : (console.follow front).console.stage = .headerSeen →
      maxBuffer < (console.follow front).console.buffer.length →
      newline ∉ back.takeWhile (· ≠ 0)) :
    Joins (console.receive now front) ((console.receive now front).console.receive afterwards back)
      (console.receive now (front ++ back)) := by
  cases stage : console.stage with
  | probing | headerSeen | contentSeen | promptSeen =>
    exact joins_menu (by rw [stage]; trivial) now afterwards front back inLine
  | flushing | transferring =>
    simp only [receive, stage]
    exact ⟨rfl, rfl, rfl, fun told => absurd rfl told⟩
  | awaitingReceiver =>
    have last : (front ++ back).getLast? = back.getLast?.or front.getLast? := List.getLast?_append
    by_cases ready : front.getLast? = some receiverReady
    · have whole : (front ++ back).getLast? = some receiverReady := by
        rcases announced stage ready with rfl | again
        · rwa [List.append_nil]
        · rw [last, again, Option.some_or]
      simp only [receive, stage, ready, whole, if_true]
      exact ⟨rfl, rfl, rfl, fun _ => ⟨rfl, rfl⟩⟩
    · have whole : (front ++ back).getLast? = some receiverReady ↔
          back.getLast? = some receiverReady := by
        rw [last]
        cases back.getLast? with
        | none => simp [ready]
        | some byte => simp
      by_cases late : back.getLast? = some receiverReady
      · simp only [receive, stage, ready, whole.mpr late, late, if_true, if_false]
        exact ⟨rfl, rfl, rfl, fun told => absurd rfl told⟩
      · simp only [receive, stage, ready, mt whole.mp late, late, if_false]
        exact ⟨rfl, rfl, rfl, fun told => absurd rfl told⟩

theorem extend_header (probing : console.stage = .probing) (empty : console.buffer = [])
    {line : List UInt8} (unended : newline ∉ line) :
    console.extend (header ++ line) =
      { console := { console with stage := .headerSeen, buffer := line } } := by
  have found : after? header (header ++ line) = some line := by
    rw [after?_of_start (List.prefix_append header line), List.drop_left]
  have follows : advance? { console with buffer := header ++ line } =
      some { console := { console with stage := .headerSeen, buffer := line } } := by
    simp [advance?, probing, found]
  have stuck : advance? { console with stage := .headerSeen, buffer := line } = none := by
    simp [advance?, line?_eq_none_iff.mpr unended]
  rw [extend, empty, List.nil_append, scan_eq, follows, Option.elim_some, Reading.andThen,
    scan_eq, stuck]
  rfl

/-- The prompt comes right behind the header's line. -/
theorem extend_prompt (console : Console) (stage : console.stage = .headerSeen)
    (unended : newline ∉ console.buffer) :
    (console.extend (newline :: prompt)).events = [.promptDetected] ∧
      (console.extend (newline :: prompt)).console.version =
        (versionOf console.buffer).or console.version := by
  let told : Console := { console with
    stage := .contentSeen
    buffer := prompt
    version := (versionOf console.buffer).or console.version }
  have line : advance? { console with buffer := console.buffer ++ newline :: prompt } =
      some { console := told, notes := [.bootloaderDetected (versionOf console.buffer)] } := by
    simp [advance?, stage, line?_of_not_mem unended, told]
  have begun : after? prompt prompt = some [] := by decide
  have seen : told.advance? = some
      { console := { told with stage := .promptSeen, buffer := [] }
        events := [.promptDetected] } := by
    simp [advance?, told, begun]
  have past : after? prompt [] = none := by decide
  have stuck : advance? { told with stage := .promptSeen, buffer := [] } = none := by
    simp [advance?, past]
  rw [extend, scan_eq, line, Option.elim_some, Reading.andThen, scan_eq, seen, Option.elim_some,
    Reading.andThen, scan_eq, stuck]
  exact ⟨rfl, rfl⟩

/-- A version line that is too long to be kept is told whole if the text comes in one piece,
and by its tail if it is cut before the end of the line. -/
theorem receive_long_line (probing : console.stage = .probing) (empty : console.buffer = [])
    {line : List UInt8} (plain : 0 ∉ line) (unended : newline ∉ line)
    (long : maxBuffer < line.length) (now afterwards : Nat) :
    let first := console.receive now (header ++ line)
    let second := first.console.receive afterwards (newline :: prompt)
    let whole := console.receive now (header ++ line ++ newline :: prompt)
    let tail := line.drop (line.length - header.length)
    first.events = [] ∧ second.events = [.promptDetected] ∧ whole.events = [.promptDetected] ∧
      second.console.version = (versionOf tail).or console.version ∧
      whole.console.version = (versionOf line).or console.version := by
  intro first second whole tail
  have menu : console.stage.IsMenu := by
    rw [probing]
    trivial
  have front := extend_header probing empty unended
  have heading : 0 ∉ header := by decide
  have inFront : 0 ∉ header ++ line := by simp [heading, plain]
  have inBack : 0 ∉ newline :: prompt := by decide
  let held : Console := { console with stage := .headerSeen, buffer := line }
  let kept : Console := { console with stage := .headerSeen, buffer := tail }
  have cut : first = { console := kept } := by
    simp only [first]
    rw [receive_of_menu menu, follow_of_not_mem console inFront, front]
    simp [trim, long, kept, tail]
  have back := extend_prompt held rfl unended
  have ofTail : newline ∉ kept.buffer := fun member => unended (List.mem_of_mem_drop member)
  have rest := extend_prompt kept rfl ofTail
  have joined : whole = { held.extend (newline :: prompt) with
      console := (held.extend (newline :: prompt)).console.trim } := by
    simp only [whole]
    rw [receive_of_menu menu, follow_append, follow_of_not_mem console inFront, front]
    simp [Reading.andThen, follow_of_not_mem _ inBack, held]
  have second' : second = { kept.extend (newline :: prompt) with
      console := (kept.extend (newline :: prompt)).console.trim } := by
    simp only [second, cut]
    rw [receive_of_menu (by trivial), follow_of_not_mem kept inBack]
  refine ⟨?_, ?_, ?_, ?_, ?_⟩
  · rw [cut]
  · rw [second']
    exact rest.1
  · rw [joined]
    exact back.1
  · rw [second', version_trim]
    exact rest.2
  · rw [joined, version_trim]
    exact back.2

end Console
end NcpHost.Bootloader
