/-!
# Element types

The ten fixed-width number types that are packed into bytes.  A type is described by its width in
bytes and by the meaning of its bit patterns.
-/

set_option autoImplicit false

namespace BytePacking

/-- What the bit patterns of a type stand for. -/
inductive Encoding where
  /-- The number with these binary digits. -/
  | unsigned
  /-- That number, less the number of patterns where the first bit is set. -/
  | twosComplement
  /-- A floating-point number.  Its bits are carried and never interpreted. -/
  | floatingPoint
  deriving Repr, DecidableEq

/-- The type of the elements of an array. -/
inductive ElementType where
  | int8
  | uint8
  | int16
  | uint16
  | int32
  | uint32
  | int64
  | uint64
  | float32
  | float64
  deriving Repr, DecidableEq

namespace ElementType

/-- The number of bytes that one element takes. -/
def width : ElementType → Nat
  | int8 | uint8 => 1
  | int16 | uint16 => 2
  | int32 | uint32 | float32 => 4
  | int64 | uint64 | float64 => 8

/-- The meaning of the bit patterns of a type. -/
def encoding : ElementType → Encoding
  | int8 | int16 | int32 | int64 => .twosComplement
  | uint8 | uint16 | uint32 | uint64 => .unsigned
  | float32 | float64 => .floatingPoint

/-- Every element has a byte. -/
theorem width_pos (t : ElementType) : 0 < t.width := by
  cases t <;> decide

/-- No element has more than eight bytes. -/
theorem width_le_eight (t : ElementType) : t.width ≤ 8 := by
  cases t <;> decide

/-- A list has no more elements than bytes. -/
theorem le_mul_width (t : ElementType) (n : Nat) : n ≤ n * t.width :=
  Nat.le_mul_of_pos_right _ t.width_pos

/-- Each of some elements ends within the bytes of all of them. -/
theorem mul_width_add_width_le (t : ElementType) {i n : Nat} (h : i < n) :
    i * t.width + t.width ≤ n * t.width := by
  rw [← Nat.succ_mul]
  exact Nat.mul_le_mul_right _ h

end ElementType

end BytePacking
