/-! Whitening: the payload of a DATA frame is combined with the output of an
eight-bit shift register, so that long runs of one value do not reach the line.
The same combination undoes it. -/
namespace NcpHost.Wire.Whitening

def seed : UInt8 := 0x42
def feedback : UInt8 := 0xB8

/-- The register's successor; the bit shifted out decides the feedback. -/
def next (state : UInt8) : UInt8 :=
  if state &&& 1 = 1 then (state >>> 1) ^^^ feedback else state >>> 1

/-- The state after `count` steps. -/
def after (count : Nat) : UInt8 :=
  Nat.repeat next count seed

/-- The first `count` states from `state` on. -/
def masks (state : UInt8) : (count : Nat) → List UInt8
  | 0 => []
  | count + 1 => state :: masks (next state) count

/-- Combines data with the register's output from `state` on. -/
def whitenFrom (state : UInt8) : List UInt8 → List UInt8
  | [] => []
  | byte :: rest => (byte ^^^ state) :: whitenFrom (next state) rest

def whiten (data : List UInt8) : List UInt8 :=
  whitenFrom seed data

@[simp] theorem length_whitenFrom (state : UInt8) (data : List UInt8) :
    (whitenFrom state data).length = data.length := by
  induction data generalizing state with
  | nil => rfl
  | cons byte rest ih => simp [whitenFrom, ih]

@[simp] theorem whitenFrom_whitenFrom (state : UInt8) (data : List UInt8) :
    whitenFrom state (whitenFrom state data) = data := by
  induction data generalizing state with
  | nil => rfl
  | cons byte rest ih =>
    rw [whitenFrom, whitenFrom, ih, UInt8.xor_assoc, UInt8.xor_self, UInt8.xor_zero]

theorem whiten_whiten (data : List UInt8) : whiten (whiten data) = data :=
  whitenFrom_whitenFrom seed data

end NcpHost.Wire.Whitening
