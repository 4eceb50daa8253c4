import NcpHost.Text.Hex

/-! How values are written. Text takes the plainest of the four quoted forms that
can hold it: one line before several, literal where that saves escapes, and
escapes only where no other form will do. -/
namespace NcpHost.Toml.Written

/-- How text is quoted. -/
inductive Style where
  | basic
  | literal
  | basicLines
  | literalLines
  deriving DecidableEq, Repr

/-- What the choice of a style hangs on. -/
structure Traits where
  /-- A control character other than tab and line feed. -/
  control : Bool
  newline : Bool
  backslash : Bool
  /-- The longest run of single quotes. -/
  single : Nat
  /-- The longest run of double quotes. -/
  double : Nat
  deriving DecidableEq, Repr

/-- The length of the longest run of `c`, if `current` of them went before. -/
def longestRun (c : Char) (current : Nat) : List Char → Nat
  | [] => current
  | d :: rest =>
    if d = c then longestRun c (current + 1) rest
    else max current (longestRun c 0 rest)

def isControl (c : Char) : Bool :=
  (c.toNat < 0x20 && c != '\t' && c != '\n') || c.toNat = 0x7F

def Traits.of (text : List Char) : Traits where
  control := text.any isControl
  newline := text.contains '\n'
  backslash := text.contains '\\'
  single := longestRun '\'' 0 text
  double := longestRun '"' 0 text

def Traits.style (traits : Traits) : Style :=
  if traits.control then (if traits.newline then .basicLines else .basic)
  else if ¬ traits.newline ∧ ¬ traits.backslash ∧ traits.double = 0 then .basic
  else if ¬ traits.newline ∧ traits.single = 0 then .literal
  else if ¬ traits.backslash ∧ traits.double ≤ 2 then .basicLines
  else if traits.single ≤ 2 then .literalLines
  else if traits.newline then .basicLines
  else .basic

def escape (c : Char) : List Char :=
  if c = '\x08' then ['\\', 'b']
  else if c = '\t' then ['\\', 't']
  else if c = '\n' then ['\\', 'n']
  else if c = '\x0C' then ['\\', 'f']
  else if c = '\r' then ['\\', 'r']
  else if c = '\\' then ['\\', '\\']
  else if c.toNat < 0x20 ∨ c.toNat = 0x7F then
    ['\\', 'u'] ++ (Text.Hex.digits 4 c.toNat).map Text.Hex.upperDigit
  else [c]

/-- Text between double quotes. A run of more than `allowed` quotes is broken by
an escape. -/
def escapeAll (allowed : Nat) (keepNewlines : Bool) (run : Nat) : List Char → List Char
  | [] => []
  | c :: rest =>
    if c = '"' then
      if run < allowed then '"' :: escapeAll allowed keepNewlines (run + 1) rest
      else '\\' :: '"' :: escapeAll allowed keepNewlines 0 rest
    else if c = '\n' ∧ keepNewlines then '\n' :: escapeAll allowed keepNewlines 0 rest
    else escape c ++ escapeAll allowed keepNewlines 0 rest

def triple (quote : Char) : List Char := [quote, quote, quote]

/-- Text that contains a line end starts on a line of its own. -/
def opening (quote : Char) (traits : Traits) : List Char :=
  triple quote ++ (if traits.newline then ['\n'] else [])

def text (content : List Char) : List Char :=
  let traits := Traits.of content
  match traits.style with
  | .basic => '"' :: escapeAll 0 false 0 content ++ ['"']
  | .literal => '\'' :: content ++ ['\'']
  | .basicLines => opening '"' traits ++ escapeAll 2 true 0 content ++ triple '"'
  | .literalLines => opening '\'' traits ++ content ++ triple '\''

def boolean (flag : Bool) : List Char := (if flag then "true" else "false").toList

/-- Integers have 64 bits with a sign. -/
def integer? (number : Nat) : Option (List Char) :=
  if number < 0x8000000000000000 then some (toString number).toList else none

/-- A line that gives a bare key its value. -/
def line (key : String) (given : List Char) : List Char :=
  key.toList ++ [' ', '=', ' '] ++ given ++ ['\n']

end NcpHost.Toml.Written
