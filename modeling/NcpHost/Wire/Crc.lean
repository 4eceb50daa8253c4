/-! The frame check sequence: CRC-CCITT, most significant bit first, starting
from all ones, sent big-endian after the frame. A frame followed by its own
check sequence leaves the register at zero. -/
namespace NcpHost.Wire.Crc

abbrev Register := BitVec 16

/-- The feedback taps x¹² + x⁵ + 1; the term x¹⁶ is the bit shifted out. -/
def polynomial : Register := 0x1021

def initial : Register := 0xFFFF

/-- One bit of division: the bit shifted out decides whether the taps apply. -/
def shift (r : Register) : Register :=
  if r.msb then (r <<< 1) ^^^ polynomial else r <<< 1

/-- A byte enters at the top of the register and is divided out bit by bit. -/
def absorb (r : Register) (byte : UInt8) : Register :=
  Nat.repeat shift 8 (r ^^^ (byte.toBitVec.setWidth 16 <<< 8))

def checksum (frame : List UInt8) : Register :=
  frame.foldl absorb initial

/-- The register as it is sent, high byte first. -/
def trailer (r : Register) : List UInt8 :=
  [UInt8.ofBitVec (r.extractLsb' 8 8), UInt8.ofBitVec (r.extractLsb' 0 8)]

def append (frame : List UInt8) : List UInt8 :=
  frame ++ trailer (checksum frame)

/-- The receiver's test: frame and check sequence together divide out. -/
def Intact (frame : List UInt8) : Prop :=
  checksum frame = 0

instance (frame : List UInt8) : Decidable (Intact frame) :=
  inferInstanceAs (Decidable (checksum frame = 0))

theorem checksum_append (front back : List UInt8) :
    checksum (front ++ back) = back.foldl absorb (checksum front) :=
  List.foldl_append

end NcpHost.Wire.Crc
