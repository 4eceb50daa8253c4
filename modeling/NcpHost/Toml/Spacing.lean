/-! What may stand between the parts of a document: blanks, comments and line
ends. A reader takes the text and gives back what it read and the rest. -/
namespace NcpHost.Toml

abbrev Reader (α : Type) := List Char → Option (α × List Char)

/-- Any character but the control characters; the tab counts as one of them only
where it is said. -/
def isPlain (c : Char) : Bool :=
  0x20 ≤ c.toNat && c.toNat != 0x7F

def isTextual (c : Char) : Bool := c = '\t' || isPlain c

def isBlank (c : Char) : Bool := c = ' ' || c = '\t'

def skipBlanks (text : List Char) : List Char := text.dropWhile isBlank

/-- The one character given. -/
def exactly (c : Char) : List Char → Option (List Char)
  | [] => none
  | first :: rest => if first = c then some rest else none

/-- A line feed, alone or after a carriage return. -/
def newline? : List Char → Option (List Char)
  | '\n' :: rest => some rest
  | '\r' :: '\n' :: rest => some rest
  | _ => none

/-- Drops a comment, if one starts here. -/
def skipComment : List Char → List Char
  | '#' :: rest => rest.dropWhile isTextual
  | text => text

/-- The end of a line: blanks, a comment, and a newline or the end of the text. -/
def lineEnd? (text : List Char) : Option (List Char) :=
  match skipComment (skipBlanks text) with
  | [] => some []
  | rest => newline? rest

/-- Blanks, newlines and comments in any number, as they may stand in an array,
from within a comment or not. A comment there ends with its line. -/
def skipLines : (comment : Bool) → List Char → Option (List Char)
  | comment, [] => if comment then none else some []
  | _, '\n' :: rest => skipLines false rest
  | _, '\r' :: '\n' :: rest => skipLines false rest
  | true, c :: rest => if isTextual c then skipLines true rest else none
  | false, c :: rest =>
    if isBlank c then skipLines false rest
    else if c = '#' then skipLines true rest
    else if c = '\r' then none
    else some (c :: rest)

theorem length_skipBlanks_le (text : List Char) : (skipBlanks text).length ≤ text.length :=
  (List.dropWhile_sublist isBlank).length_le

theorem length_newline?_lt {text rest : List Char} (found : newline? text = some rest) :
    rest.length < text.length := by
  unfold newline? at found
  split at found
  · cases found
    exact Nat.lt_succ_self _
  · cases found
    exact Nat.lt_add_of_pos_right (k := 2) (by decide)
  · simp at found

end NcpHost.Toml
