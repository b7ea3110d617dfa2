import BytePacking.Outcome

/-!
# Machine words and memory

Offsets, lengths and sizes are natural numbers, and sums and products of them are exact.  A machine
with 64-bit addresses sets two limits on them: an offset is a word, less than `wordLimit`, and one
array spans at most `allocationLimit` bytes.

`add?` and `mul?` are the arithmetic of words: they give the exact result or none at all
(`add?_eq_some_iff`, `mul?_eq_some_iff`), so no result is ever off by a multiple of the limit.
`allocate` makes an array, and traps where its bytes are beyond the limit.
-/

set_option autoImplicit false

namespace BytePacking.AddressSpace

/-- The number of machine words, 2 to the power of 64: each offset and each size is less. -/
def wordLimit : Nat := 18446744073709551616

/-- The largest number of bytes that one array spans, one less than half the number of words. -/
def allocationLimit : Nat := 9223372036854775807

/-- The exact sum, if it is a machine word. -/
def add? (a b : Nat) : Option Nat := if a + b < wordLimit then some (a + b) else none

/-- The exact product, if it is a machine word. -/
def mul? (a b : Nat) : Option Nat := if a * b < wordLimit then some (a * b) else none

/-- A sum is computed exactly where it is a word, and then it is the sum. -/
theorem add?_eq_some_iff {a b c : Nat} : add? a b = some c ↔ a + b < wordLimit ∧ a + b = c := by
  simp [add?]

/-- A sum is not computed where it is no word. -/
theorem add?_eq_none_iff {a b : Nat} : add? a b = none ↔ wordLimit ≤ a + b := by
  simp [add?]

/-- A product is computed exactly where it is a word, and then it is the product. -/
theorem mul?_eq_some_iff {a b c : Nat} : mul? a b = some c ↔ a * b < wordLimit ∧ a * b = c := by
  simp [mul?]

/-- A product is not computed where it is no word. -/
theorem mul?_eq_none_iff {a b : Nat} : mul? a b = none ↔ wordLimit ≤ a * b := by
  simp [mul?]

/-- What fits in an array has a word for its size. -/
theorem allocationLimit_lt_wordLimit : allocationLimit < wordLimit := by decide

section Allocate

variable {ε α : Type}

/-- A new array of `count` copies of `fill`, each of `unit` bytes.  Where these bytes are more than
an array can span there is no such array. -/
def allocate (unit count : Nat) (fill : α) : Outcome ε (List α) :=
  if count * unit ≤ allocationLimit then .ok (List.replicate count fill) else .trap

/-- An array within the limit is made, with the same item everywhere. -/
theorem allocate_eq_ok {unit count : Nat} (fill : α) (h : count * unit ≤ allocationLimit) :
    (allocate unit count fill : Outcome ε (List α)) = .ok (List.replicate count fill) :=
  if_pos h

/-- An array beyond the limit is not made. -/
theorem allocate_eq_trap {unit count : Nat} (fill : α) (h : allocationLimit < count * unit) :
    (allocate unit count fill : Outcome ε (List α)) = .trap :=
  if_neg (Nat.not_le.2 h)

/-- What is made is within the limit and has the same item everywhere. -/
theorem allocate_eq_ok_iff {unit count : Nat} {fill : α} {fresh : List α} :
    (allocate unit count fill : Outcome ε (List α)) = .ok fresh ↔
      count * unit ≤ allocationLimit ∧ List.replicate count fill = fresh := by
  by_cases room : count * unit ≤ allocationLimit <;> simp [allocate, room]

end Allocate

end BytePacking.AddressSpace
