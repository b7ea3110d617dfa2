/-!
# Numbers as bytes, most significant byte first

A list of bytes is read as a number in base 256, its first byte being the most significant digit
(`value`), and a number is written with a given count of such digits (`digits`).  A digit counts as
often as its `weight` says, which depends on the number of digits behind it.

The two are inverse to each other: writing what was read gives the bytes back (`digits_value`), and
reading what was written gives the number, as far as its digits were written (`value_digits`).
-/

set_option autoImplicit false

namespace BytePacking.Positional

/-- How much a digit counts with `count` digits behind it: as much as there are lists of so many
bytes. -/
def weight : (count : Nat) → Nat
  | 0 => 1
  | count + 1 => 256 * weight count

/-- The number that a list of bytes stands for. -/
def value : List UInt8 → Nat
  | [] => 0
  | b :: bs => b.toNat * weight bs.length + value bs

/-- The last `width` digits of a number. -/
def digits : (width : Nat) → Nat → List UInt8
  | 0, _ => []
  | width + 1, n => UInt8.ofNat (n / weight width) :: digits width n

/-- The last byte counts as it is. -/
@[simp] theorem weight_zero : weight 0 = 1 := rfl

/-- Each byte before it counts 256 times as much as the next. -/
theorem weight_succ (count : Nat) : weight (count + 1) = 256 * weight count := rfl

/-- No bytes are zero. -/
@[simp] theorem value_nil : value [] = 0 := rfl

/-- The first byte has the weight of all places behind it. -/
theorem value_cons (b : UInt8) (bs : List UInt8) :
    value (b :: bs) = b.toNat * weight bs.length + value bs := rfl

/-- In no places there are no digits. -/
@[simp] theorem digits_zero (n : Nat) : digits 0 n = [] := rfl

/-- The first digit is what is left when the places behind it are cut off. -/
theorem digits_succ (width n : Nat) :
    digits (width + 1) n = UInt8.ofNat (n / weight width) :: digits width n := rfl

/-- One byte is eight bits. -/
theorem weight_eq_shiftLeft (count : Nat) : weight count = 1 <<< (8 * count) := by
  induction count with
  | zero => rfl
  | succ count ih =>
    rw [weight_succ, ih, Nat.one_shiftLeft, Nat.one_shiftLeft, Nat.mul_succ, Nat.pow_add,
      Nat.mul_comm]

/-- No place is without weight. -/
theorem weight_pos (count : Nat) : 0 < weight count := by
  induction count with
  | zero => decide
  | succ count ih =>
    rw [weight_succ]
    omega

/-- There is a digit for every place. -/
@[simp] theorem length_digits (width n : Nat) : (digits width n).length = width := by
  induction width with
  | zero => rfl
  | succ width ih => simp [digits_succ, ih]

/-- A list of bytes stands for one of as many numbers as there are such lists. -/
theorem value_lt (bs : List UInt8) : value bs < weight bs.length := by
  induction bs with
  | nil => decide
  | cons b bs ih =>
    have hb : b.toNat + 1 ≤ 256 := b.toNat_lt
    calc value (b :: bs) < (b.toNat + 1) * weight bs.length := by
          rw [value_cons, Nat.succ_mul]
          omega
      _ ≤ 256 * weight bs.length := Nat.mul_le_mul_right _ hb
      _ = weight (b :: bs).length := rfl

/-- Only the digits that are written count. -/
theorem digits_add_mul (width n k : Nat) : digits width (n + k * weight width) = digits width n := by
  induction width generalizing k with
  | zero => rfl
  | succ width ih =>
    have split : n + k * weight (width + 1) = n + k * 256 * weight width := by
      rw [weight_succ, Nat.mul_assoc]
    have high : (n + k * 256 * weight width) / weight width = n / weight width + k * 256 :=
      Nat.add_mul_div_right _ _ (weight_pos width)
    rw [digits_succ, split, ih, high, digits_succ]
    congr 1
    apply UInt8.toNat_inj.1
    simp

/-- Writing what was read gives the bytes back. -/
@[simp] theorem digits_value (bs : List UInt8) : digits bs.length (value bs) = bs := by
  induction bs with
  | nil => rfl
  | cons b bs ih =>
    have high : (b.toNat * weight bs.length + value bs) / weight bs.length = b.toNat := by
      rw [Nat.add_comm, Nat.add_mul_div_right _ _ (weight_pos _),
        Nat.div_eq_of_lt (value_lt bs), Nat.zero_add]
    rw [List.length_cons, digits_succ, value_cons, high, Nat.add_comm, digits_add_mul, ih]
    simp

/-- Reading what was written gives the number, as far as its digits were written. -/
@[simp] theorem value_digits (width n : Nat) : value (digits width n) = n % weight width := by
  induction width with
  | zero => simp [Nat.mod_one]
  | succ width ih =>
    have first : (UInt8.ofNat (n / weight width)).toNat = n / weight width % 256 :=
      UInt8.toNat_ofNat'
    rw [digits_succ, value_cons, length_digits, ih, first, weight_succ, Nat.mul_comm 256,
      Nat.mod_mul, Nat.mul_comm, Nat.add_comm]

/-! ## Bit patterns -/

/-- A pattern of `width` bytes is a number of as many digits. -/
theorem toNat_lt_weight {width : Nat} (bits : BitVec (8 * width)) : bits.toNat < weight width := by
  rw [weight_eq_shiftLeft, Nat.one_shiftLeft]
  exact bits.isLt

/-- A pattern of `width` bytes keeps the last digits of a number. -/
theorem toNat_ofNat_eq_mod_weight (width n : Nat) :
    (BitVec.ofNat (8 * width) n).toNat = n % weight width := by
  rw [weight_eq_shiftLeft, Nat.one_shiftLeft, BitVec.toNat_ofNat]

end BytePacking.Positional
