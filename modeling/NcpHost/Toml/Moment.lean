import NcpHost.Toml.Number

/-! Dates and times of the calendar, alone or together, with or without an
offset. Only their form and range matter. -/
namespace NcpHost.Toml.Moment

/-- Exactly `count` digits. -/
def figure (count : Nat) (text : List Char) : Option (Nat × List Char) :=
  let written := text.take count
  if written.length = count ∧ written.all Number.isDigit then
    some (Number.valueIn 10 written, text.drop count)
  else none

/-- A figure between bounds. -/
def within (count low high : Nat) (text : List Char) : Option (Nat × List Char) := do
  let (value, rest) ← figure count text
  if low ≤ value ∧ value ≤ high then some (value, rest) else none

def isLeap (year : Nat) : Bool :=
  year % 4 = 0 && (year % 100 != 0 || year % 400 = 0)

def daysIn (year month : Nat) : Nat :=
  if month = 2 then (if isLeap year then 29 else 28)
  else if month ∈ [4, 6, 9, 11] then 30
  else 31

def date (text : List Char) : Option (List Char) := do
  let (year, rest) ← figure 4 text
  let rest ← exactly '-' rest
  let (month, rest) ← within 2 1 12 rest
  let rest ← exactly '-' rest
  let (_, rest) ← within 2 1 (daysIn year month) rest
  some rest

/-- Hours, minutes and seconds, a leap second among them, and a fraction. -/
def time (text : List Char) : Option (List Char) := do
  let (_, rest) ← within 2 0 23 text
  let rest ← exactly ':' rest
  let (_, rest) ← within 2 0 59 rest
  let rest ← exactly ':' rest
  let (_, rest) ← within 2 0 60 rest
  match rest with
  | '.' :: c :: rest => if Number.isDigit c then some (rest.dropWhile Number.isDigit) else none
  | '.' :: [] => none
  | rest => some rest

def offset (text : List Char) : Option (List Char) :=
  match text with
  | c :: rest =>
    if c = 'Z' ∨ c = 'z' then some rest
    else if c = '+' ∨ c = '-' then do
      let (_, rest) ← within 2 0 23 rest
      let rest ← exactly ':' rest
      let (_, rest) ← within 2 0 59 rest
      some rest
    else some text
  | [] => some []

/-- A time starts with two digits and a colon. -/
def startsTime : List Char → Bool
  | a :: b :: c :: _ => Number.isDigit a && Number.isDigit b && c = ':'
  | _ => false

/-- A date starts with four digits and a hyphen. -/
def startsDate (text : List Char) : Bool :=
  (figure 4 text).any fun (_, rest) => rest.head? = some '-'

/-- The time that may follow a date after a letter T or a blank. -/
def afterDate (text : List Char) : Option (List Char) :=
  match text with
  | c :: rest =>
    if (c = 'T' ∨ c = 't' ∨ c = ' ') ∧ startsTime rest then (time rest).bind offset
    else some text
  | [] => some []

def any (text : List Char) : Option (List Char) :=
  if startsDate text then (date text).bind afterDate else time text

end NcpHost.Toml.Moment
