import NcpHost.Text.Hex
import NcpHost.Toml.Spacing

/-! Numbers: integers of 64 bits in four bases, and floats, which are read for
their form and range only. -/
namespace NcpHost.Toml.Number

def isDigit (c : Char) : Bool := '0' ≤ c && c ≤ '9'

/-- One or more digits, single underscores between them; the digits alone are the
result. An underscore that no digit follows is an error. -/
def digits (accepts : Char → Bool) : Reader (List Char)
  | [] => none
  | [c] => if accepts c then some ([c], []) else none
  | c :: next :: rest =>
    if accepts c then
      if next = '_' then (digits accepts rest).map fun (more, rest) => (c :: more, rest)
      else if accepts next then
        (digits accepts (next :: rest)).map fun (more, rest) => (c :: more, rest)
      else some ([c], next :: rest)
    else none

/-- A decimal whole number does not start with a zero unless it is zero. -/
def whole : Reader (List Char)
  | '0' :: rest => some (['0'], rest)
  | text => digits isDigit text

def signed (text : List Char) : Bool × List Char :=
  match text with
  | '-' :: rest => (true, rest)
  | '+' :: rest => (false, rest)
  | _ => (false, text)

def valueIn (base : Nat) (written : List Char) : Nat :=
  written.foldl (fun sum c => base * sum + (Text.Hex.digit? c).getD 0) 0

def inRange (number : Int) : Bool :=
  -0x8000000000000000 ≤ number && number < 0x8000000000000000

def isOctal (c : Char) : Bool := '0' ≤ c && c ≤ '7'

def isBinary (c : Char) : Bool := c = '0' || c = '1'

/-- The digits after a sign for the base. -/
def based (base : Nat) (accepts : Char → Bool) (text : List Char) : Option (Int × List Char) := do
  let (written, rest) ← digits accepts text
  let number : Int := valueIn base written
  if inRange number then some (number, rest) else none

def integer : Reader Int
  | '0' :: 'x' :: rest => based 16 (fun c => (Text.Hex.digit? c).isSome) rest
  | '0' :: 'o' :: rest => based 8 isOctal rest
  | '0' :: 'b' :: rest => based 2 isBinary rest
  | text => do
    let (negative, text) := signed text
    let (written, rest) ← whole text
    let size : Int := valueIn 10 written
    let number := if negative then -size else size
    if inRange number then some (number, rest) else none

/-- From this size on a number rounds to infinity in 64-bit binary floats. -/
def floatLimit : Nat := Nat.pow 2 1024 - Nat.pow 2 970

/-- Whether the number that `written` names, times `10 ^ exponent`, rounds to
infinity. The number of digits tells unless the limit has as many. -/
def overflows (written : List Char) (exponent : Int) : Bool :=
  let significant := written.dropWhile (· = '0')
  let magnitude := significant.length + exponent
  if significant.isEmpty ∨ magnitude < 309 then false
  else if 309 < magnitude then true
  else
    floatLimit * Nat.pow 10 (-exponent).toNat ≤
      valueIn 10 significant * Nat.pow 10 exponent.toNat

def fraction? : List Char → Option (Option (List Char) × List Char)
  | '.' :: rest => (digits isDigit rest).map fun (written, rest) => (some written, rest)
  | text => some (none, text)

/-- No more digits count once an exponent has reached 2¹⁶. -/
def exponentSize (written : List Char) : Nat :=
  written.foldl
    (fun sum c => if sum < 0x10000 then 10 * sum + (Text.Hex.digit? c).getD 0 else sum) 0

def exponent? (text : List Char) : Option (Option Int × List Char) :=
  match text with
  | c :: rest =>
    if c = 'e' ∨ c = 'E' then do
      let (negative, rest) := signed rest
      let (written, rest) ← digits isDigit rest
      let size : Int := exponentSize written
      some (some (if negative then -size else size), rest)
    else some (none, text)
  | [] => some (none, text)

/-- A number with a fraction, an exponent or both, or one of the named values. A
positive number beyond the range is refused. -/
def float (text : List Char) : Option (List Char) :=
  let (negative, body) := signed text
  match body with
  | 'i' :: 'n' :: 'f' :: rest => some rest
  | 'n' :: 'a' :: 'n' :: rest => some rest
  | _ => do
    let (front, rest) ← whole body
    let (fraction, rest) ← fraction? rest
    let (exponent, rest) ← exponent? rest
    if fraction.isNone ∧ exponent.isNone then none
    else
      let places := fraction.getD []
      if overflows (front ++ places) (exponent.getD 0 - places.length) ∧ ¬ negative then none
      else some rest

end NcpHost.Toml.Number
