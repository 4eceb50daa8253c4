/-! Hexadecimal text: bytes as pairs of lower-case digits, and single words
with an `0x` sign in upper case, padded to a fixed number of digits. -/
namespace NcpHost.Text.Hex

def digits : (count value : Nat) → List Nat
  | 0, _ => []
  | count + 1, value => digits count (value / 16) ++ [value % 16]

def lowerDigit (digit : Nat) : Char :=
  if digit < 10 then Char.ofNat (48 + digit) else Char.ofNat (87 + digit)

def upperDigit (digit : Nat) : Char :=
  if digit < 10 then Char.ofNat (48 + digit) else Char.ofNat (55 + digit)

/-- The low `width` digits of `value`, upper case, after `0x`. -/
def word (width value : Nat) : String :=
  "0x" ++ String.ofList ((digits width value).map upperDigit)

def byte (value : UInt8) : String := word 2 value.toNat

/-- Two lower-case digits a byte, no separator. -/
def ofBytes (data : List UInt8) : String :=
  String.ofList (data.flatMap fun b => (digits 2 b.toNat).map lowerDigit)

def digit? (c : Char) : Option Nat :=
  if '0' ≤ c ∧ c ≤ '9' then some (c.toNat - 48)
  else if 'a' ≤ c ∧ c ≤ 'f' then some (c.toNat - 87)
  else if 'A' ≤ c ∧ c ≤ 'F' then some (c.toNat - 55)
  else none

def bytesOfChars? : List Char → Option (List UInt8)
  | [] => some []
  | [_] => none
  | high :: low :: rest => do
    let h ← digit? high
    let l ← digit? low
    let data ← bytesOfChars? rest
    some (UInt8.ofNat (16 * h + l) :: data)

def bytes? (text : String) : Option (List UInt8) :=
  bytesOfChars? text.toList

end NcpHost.Text.Hex
