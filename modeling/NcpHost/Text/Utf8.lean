/-! Reading bytes as UTF-8. `decode` never fails: each longest prefix of a
well-formed character that is not continued as it should be stands for one
replacement character. `decode?` accepts well-formed text alone. -/
namespace NcpHost.Text.Utf8

def replacement : Char := '\uFFFD'

/-- A character begun: the continuation bytes still owed, the range in which
the next one must lie, and the bits collected so far. -/
structure Partial where
  owed : Nat
  low : UInt8
  high : UInt8
  bits : Nat
  deriving DecidableEq, Repr

/-- What a first byte begins. The ranges leave out overlong forms, surrogates
and values beyond the last code point. -/
inductive Lead where
  | single (c : Char)
  | begun (character : Partial)
  | invalid
  deriving DecidableEq, Repr

def lead (byte : UInt8) : Lead :=
  let value := byte.toNat
  if byte < 0x80 then .single (Char.ofNat value)
  else if byte < 0xC2 then .invalid
  else if byte < 0xE0 then .begun ⟨1, 0x80, 0xBF, value - 0xC0⟩
  else if byte = 0xE0 then .begun ⟨2, 0xA0, 0xBF, 0⟩
  else if byte = 0xED then .begun ⟨2, 0x80, 0x9F, 0xD⟩
  else if byte < 0xF0 then .begun ⟨2, 0x80, 0xBF, value - 0xE0⟩
  else if byte = 0xF0 then .begun ⟨3, 0x90, 0xBF, 0⟩
  else if byte < 0xF4 then .begun ⟨3, 0x80, 0xBF, value - 0xF0⟩
  else if byte = 0xF4 then .begun ⟨3, 0x80, 0x8F, 4⟩
  else .invalid

/-- What a byte completes, and what it leaves begun, if nothing is begun before
it. A replacement is `none`. -/
def start (byte : UInt8) : List (Option Char) × Option Partial :=
  match lead byte with
  | .single c => ([some c], none)
  | .begun character => ([], some character)
  | .invalid => ([none], none)

/-- A byte that does not continue the character begun replaces what there is of
it and is read afresh. -/
def step : Option Partial → UInt8 → List (Option Char) × Option Partial
  | none, byte => start byte
  | some p, byte =>
    if p.low ≤ byte ∧ byte ≤ p.high then
      let bits := 64 * p.bits + (byte.toNat - 0x80)
      if p.owed ≤ 1 then ([some (Char.ofNat bits)], none)
      else ([], some ⟨p.owed - 1, 0x80, 0xBF, bits⟩)
    else
      let (completed, begun) := start byte
      (none :: completed, begun)

/-- Reads on from what is begun. -/
def scan : Option Partial → List UInt8 → List (Option Char)
  | none, [] => []
  | some _, [] => [none]
  | begun, byte :: rest =>
    let (completed, begun) := step begun byte
    completed ++ scan begun rest

def decode (data : List UInt8) : List Char :=
  (scan none data).map (·.getD replacement)

def decode? (data : List UInt8) : Option (List Char) :=
  (scan none data).mapM id

end NcpHost.Text.Utf8
