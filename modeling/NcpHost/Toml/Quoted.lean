import NcpHost.Text.Hex
import NcpHost.Toml.Spacing

/-! Quoted text in its four forms: with escapes between double quotes, literally
between single quotes, and each on several lines between three of them. -/
namespace NcpHost.Toml.Quoted

/-- The code point that hexadecimal digits name; surrogates are none. -/
def scalar? (digits : List Char) : Option Char := do
  let values ← digits.mapM Text.Hex.digit?
  let code := values.foldl (fun sum digit => 16 * sum + digit) 0
  if code < 0xD800 ∨ (0xDFFF < code ∧ code < 0x110000) then some (Char.ofNat code) else none

/-- What follows a backslash. -/
def escaped : Reader Char
  | 'b' :: rest => some ('\x08', rest)
  | 'f' :: rest => some ('\x0C', rest)
  | 'n' :: rest => some ('\n', rest)
  | 'r' :: rest => some ('\r', rest)
  | 't' :: rest => some ('\t', rest)
  | '"' :: rest => some ('"', rest)
  | '\\' :: rest => some ('\\', rest)
  | 'u' :: rest =>
    if (rest.take 4).length < 4 then none
    else (scalar? (rest.take 4)).map fun c => (c, rest.drop 4)
  | 'U' :: rest =>
    if (rest.take 8).length < 8 then none
    else (scalar? (rest.take 8)).map fun c => (c, rest.drop 8)
  | _ => none

theorem length_escaped_lt {text rest : List Char} {c : Char}
    (found : escaped text = some (c, rest)) : rest.length < text.length := by
  unfold escaped at found
  split at found
  case h_8 | h_9 =>
    split at found
    · simp at found
    · obtain ⟨_, _, same⟩ := Option.map_eq_some_iff.1 found
      cases same
      simp only [List.length_drop, List.length_cons]
      omega
  case h_10 => simp at found
  all_goals
    cases found
    exact Nat.lt_succ_self _

/-- After the opening double quote. -/
def basic (text : List Char) : Option (List Char × List Char) :=
  match text with
  | [] => none
  | c :: rest =>
    if c = '"' then some ([], rest)
    else if c = '\\' then
      match _found : escaped rest with
      | none => none
      | some (meant, later) =>
        (basic later).map fun (content, rest) => (meant :: content, rest)
    else if isTextual c then (basic rest).map fun (content, rest) => (c :: content, rest)
    else none
termination_by text.length
decreasing_by
  · have := length_escaped_lt _found
    simp only [List.length_cons]
    omega
  · simp

/-- After the opening single quote. -/
def literal : Reader (List Char)
  | [] => none
  | c :: rest =>
    if c = '\'' then some ([], rest)
    else if isTextual c then (literal rest).map fun (content, rest) => (c :: content, rest)
    else none

/-- A run of quotes within text on several lines: fewer than three belong to the
text, three close it, and up to two more before those belong to it still. `none`
if the run does not close the text. -/
def closing? (quote : Char) (text : List Char) : Option (List Char × List Char) :=
  let run := (text.takeWhile (· = quote)).length
  if run < 3 then none
  else
    let kept := min (run - 3) 2
    some (List.replicate kept quote, text.drop (kept + 3))

/-- Drops blanks and newlines. -/
def skipBreaks : List Char → List Char
  | [] => []
  | ' ' :: rest => skipBreaks rest
  | '\t' :: rest => skipBreaks rest
  | '\n' :: rest => skipBreaks rest
  | '\r' :: '\n' :: rest => skipBreaks rest
  | text => text

theorem length_skipBreaks_le (text : List Char) : (skipBreaks text).length ≤ text.length := by
  fun_induction skipBreaks text with
  | case1 => exact Nat.le_refl _
  | case2 _ ih | case3 _ ih | case4 _ ih => exact Nat.le_succ_of_le ih
  | case5 _ ih => exact Nat.le_add_right_of_le (k := 2) ih
  | case6 => exact Nat.le_refl _

/-- A backslash at the end of a line removes the line end and the blanks and line
ends after it. `none` if the line does not end here. -/
def continued? (text : List Char) : Option (List Char) :=
  (newline? (skipBlanks text)).map skipBreaks

theorem length_continued?_lt {text rest : List Char} (found : continued? text = some rest) :
    rest.length < text.length := by
  obtain ⟨later, ended, rfl⟩ := Option.map_eq_some_iff.1 found
  have := length_newline?_lt ended
  have := length_skipBlanks_le text
  have := length_skipBreaks_le later
  omega

/-- On several lines, after the opening quotes. Line ends become line feeds. -/
def lines (quote : Char) (escapes : Bool) (text : List Char) :
    Option (List Char × List Char) :=
  match closing? quote text with
  | some result => some result
  | none =>
    match _ended : newline? text with
    | some later =>
      (lines quote escapes later).map fun (content, rest) => ('\n' :: content, rest)
    | none =>
      match text with
      | [] => none
      | c :: rest =>
        if escapes ∧ c = '\\' then
          match _joined : continued? rest with
          | some later => lines quote escapes later
          | none =>
            match _found : escaped rest with
            | none => none
            | some (meant, later) =>
              (lines quote escapes later).map fun (content, rest) => (meant :: content, rest)
        else if isTextual c then
          (lines quote escapes rest).map fun (content, rest) => (c :: content, rest)
        else none
termination_by text.length
decreasing_by
  · exact length_newline?_lt _ended
  · have := length_continued?_lt _joined
    simp only [List.length_cons]
    omega
  · have := length_escaped_lt _found
    simp only [List.length_cons]
    omega
  · simp

/-- A newline right after the opening quotes does not count. -/
def manyLines (quote : Char) (escapes : Bool) (text : List Char) :
    Option (List Char × List Char) :=
  lines quote escapes ((newline? text).getD text)

/-- Text on one line, as a key may be written too. -/
def line : Reader (List Char)
  | '"' :: rest => basic rest
  | '\'' :: rest => literal rest
  | _ => none

/-- Text in any of the four forms. -/
def any : Reader (List Char)
  | '"' :: '"' :: '"' :: rest => manyLines '"' true rest
  | '\'' :: '\'' :: '\'' :: rest => manyLines '\'' false rest
  | text => line text

end NcpHost.Toml.Quoted
