import BytePacking.AddressSpace
import BytePacking.RangeError
import BytePacking.Update

/-!
# Ranges that fit

A `Window` is a range of positions inside a region of known capacity; that it lies inside is part of
the type, so reading or changing its positions needs no further test.  The way to one is a check:
`Window.check` for a range counted in positions, `Window.checkBlocks` for one counted in blocks of
equal width.

A check refuses a range whose end is not a machine word, and then one that ends beyond the
capacity.  `check_eq_ok`, `check_eq_overflow` and `check_eq_pastEnd` tell the three cases apart by
the exact end of the range.  A check of blocks is a check of their bytes (`checkBlocks_eq_check`).
-/

set_option autoImplicit false

namespace BytePacking

/-- A range of positions, `start` included and `stop` excluded, inside a region of `capacity`. -/
structure Window (capacity : Nat) where
  /-- The first position. -/
  start : Nat
  /-- The position behind the last. -/
  stop : Nat
  /-- The range does not end before it starts. -/
  start_le_stop : start ≤ stop
  /-- The range lies inside the region. -/
  stop_le_capacity : stop ≤ capacity
  deriving Repr, DecidableEq

namespace Window

/-! ## Checks -/

/-- The `count` positions from `start` on, if they lie inside a region of `capacity`. -/
def check (region : Region) (capacity start count : Nat) : Except RangeError (Window capacity) :=
  match sum : AddressSpace.add? start count with
  | none => .error ⟨region, .overflow⟩
  | some stop =>
    if fits : stop ≤ capacity then
      have start_le_stop : start ≤ stop := by
        have := (AddressSpace.add?_eq_some_iff.1 sum).2
        omega
      .ok ⟨start, stop, start_le_stop, fits⟩
    else .error ⟨region, .pastEnd stop capacity⟩

/-- The `len` blocks of `width` bytes from byte `start` on, if they lie inside a buffer of
`capacity` bytes. -/
def checkBlocks (width capacity start len : Nat) : Except RangeError (Window capacity) :=
  match AddressSpace.mul? len width with
  | none => .error ⟨.bytes, .overflow⟩
  | some count => check .bytes capacity start count

section Checks

variable {region : Region} {width capacity start count len : Nat}

/-- A range whose end is a word within the capacity passes. -/
theorem check_eq_ok (word : start + count < AddressSpace.wordLimit)
    (fits : start + count ≤ capacity) :
    check region capacity start count =
      .ok ⟨start, start + count, Nat.le_add_right _ _, fits⟩ := by
  unfold check
  split
  · next h => exact absurd (AddressSpace.add?_eq_none_iff.1 h) (Nat.not_le.2 word)
  · next stop h =>
    obtain ⟨-, rfl⟩ := AddressSpace.add?_eq_some_iff.1 h
    rw [dif_pos fits]

/-- A range whose end is not a word is refused for that. -/
theorem check_eq_overflow (h : AddressSpace.wordLimit ≤ start + count) :
    check region capacity start count = .error ⟨region, .overflow⟩ := by
  unfold check
  split
  · rfl
  · next stop h' => exact absurd (AddressSpace.add?_eq_some_iff.1 h').1 (Nat.not_lt.2 h)

/-- A range whose end is a word beyond the capacity is refused, and both numbers are told. -/
theorem check_eq_pastEnd (word : start + count < AddressSpace.wordLimit)
    (h : capacity < start + count) :
    check region capacity start count = .error ⟨region, .pastEnd (start + count) capacity⟩ := by
  unfold check
  split
  · next h' => exact absurd (AddressSpace.add?_eq_none_iff.1 h') (Nat.not_le.2 word)
  · next stop h' =>
    obtain ⟨-, rfl⟩ := AddressSpace.add?_eq_some_iff.1 h'
    rw [dif_neg (Nat.not_le.2 h)]

/-- Counting in blocks is counting in bytes: a product that is not a word makes an end that is
none either. -/
theorem checkBlocks_eq_check :
    checkBlocks width capacity start len = check .bytes capacity start (len * width) := by
  unfold checkBlocks
  split
  · next h =>
    have large := AddressSpace.mul?_eq_none_iff.1 h
    exact (check_eq_overflow (by omega)).symm
  · next count h =>
    obtain ⟨-, rfl⟩ := AddressSpace.mul?_eq_some_iff.1 h
    rfl

/-- Blocks whose bytes end at a word within the capacity pass. -/
theorem checkBlocks_eq_ok (word : start + len * width < AddressSpace.wordLimit)
    (fits : start + len * width ≤ capacity) :
    checkBlocks width capacity start len =
      .ok ⟨start, start + len * width, Nat.le_add_right _ _, fits⟩ := by
  rw [checkBlocks_eq_check, check_eq_ok word fits]

end Checks

/-! ## Reading and changing a range -/

section Windows

variable {ε α : Type}

/-- The items of a list in a window. -/
def slice (xs : List α) (w : Window xs.length) : List α := (xs.drop w.start).take (w.stop - w.start)

/-- Changes the items in a window as one list of their own, and keeps the others. -/
def modify (xs : List α) (w : Window xs.length) (change : List α → Update ε (List α)) :
    Update ε (List α) :=
  (change (w.slice xs)).map fun items => xs.take w.start ++ items ++ xs.drop w.stop

/-- A window has as many items as it spans positions. -/
@[simp] theorem length_slice (xs : List α) (w : Window xs.length) :
    (w.slice xs).length = w.stop - w.start := by
  have := w.stop_le_capacity
  simp only [slice, List.length_take, List.length_drop]
  omega

end Windows

end Window

end BytePacking
