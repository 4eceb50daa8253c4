/-! Byte stuffing. Six byte values steer the line itself, so inside a frame
each is sent as an escape followed by the value with one bit flipped. -/
namespace NcpHost.Wire

/-- Closes a frame. -/
def flag : UInt8 := 0x7E
/-- Announces a stuffed byte. -/
def escape : UInt8 := 0x7D
def xon : UInt8 := 0x11
def xoff : UInt8 := 0x13
/-- Stands for a byte that the line garbled. -/
def substitute : UInt8 := 0x18
/-- Abandons the frame in progress. -/
def cancel : UInt8 := 0x1A

/-- The bit by which a stuffed byte differs from the byte it stands for. -/
def escapeBit : UInt8 := 0x20

def reserved : List UInt8 := [flag, escape, xon, xoff, substitute, cancel]

def stuffByte (byte : UInt8) : List UInt8 :=
  if byte ∈ reserved then [escape, byte ^^^ escapeBit] else [byte]

def stuff (data : List UInt8) : List UInt8 :=
  data.flatMap stuffByte

inductive StuffingError where
  /-- The text ends between an escape and the byte it announces. -/
  | danglingEscape
  deriving DecidableEq, Repr

def StuffingError.message : StuffingError → String
  | .danglingEscape => "Escape byte at end of frame"

/-- Any byte may follow an escape; the reader does not ask whether it had to be
stuffed. -/
def unstuff : List UInt8 → Except StuffingError (List UInt8)
  | [] => .ok []
  | [byte] => if byte = escape then .error .danglingEscape else .ok [byte]
  | byte :: next :: rest =>
    if byte = escape then (unstuff rest).map ((next ^^^ escapeBit) :: ·)
    else (unstuff (next :: rest)).map (byte :: ·)

@[simp] theorem stuff_nil : stuff [] = [] := rfl

@[simp] theorem stuff_cons (byte : UInt8) (data : List UInt8) :
    stuff (byte :: data) = stuffByte byte ++ stuff data := rfl

end NcpHost.Wire
