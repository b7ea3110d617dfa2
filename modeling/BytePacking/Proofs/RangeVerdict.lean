import BytePacking.Window

/-!
# Which ranges are refused

A range fits a region where its exact end is a machine word and lies within the capacity.  Checks
pass exactly on the ranges that fit (`check_of_fits`, `check_of_not_fits`), and the error for all
others depends on nothing but the numbers: it is `Window.refusal`.
-/

set_option autoImplicit false

namespace BytePacking.Window

/-- The `count` positions from `start` on are positions of a region of `capacity`. -/
structure Fits (capacity start count : Nat) : Prop where
  /-- The end of the range is a machine word. -/
  word : start + count < AddressSpace.wordLimit
  /-- The end of the range is within the capacity. -/
  inside : start + count ≤ capacity

/-- Whether a range fits is found by computing its end. -/
instance (capacity start count : Nat) : Decidable (Fits capacity start count) :=
  decidable_of_iff (start + count < AddressSpace.wordLimit ∧ start + count ≤ capacity)
    ⟨fun h => ⟨h.1, h.2⟩, fun h => ⟨h.word, h.inside⟩⟩

/-- The error for a range that does not fit: that its end is no word comes before all else. -/
def refusal (region : Region) (capacity start count : Nat) : RangeError :=
  if AddressSpace.wordLimit ≤ start + count then ⟨region, .overflow⟩
  else ⟨region, .pastEnd (start + count) capacity⟩

/-- The window of a range that fits. -/
def ofFits {capacity start count : Nat} (h : Fits capacity start count) : Window capacity :=
  ⟨start, start + count, Nat.le_add_right _ _, h.inside⟩

/-- The window of a range that fits starts where the range does. -/
@[simp] theorem start_ofFits {capacity start count : Nat} (h : Fits capacity start count) :
    (ofFits h).start = start := rfl

/-- The window of a range that fits stops where the range does. -/
@[simp] theorem stop_ofFits {capacity start count : Nat} (h : Fits capacity start count) :
    (ofFits h).stop = start + count := rfl

variable {region : Region} {width capacity start count len : Nat}

/-- A range that fits passes. -/
theorem check_of_fits (h : Fits capacity start count) :
    check region capacity start count = .ok (ofFits h) :=
  check_eq_ok h.word h.inside

/-- A range that does not fit is refused. -/
theorem check_of_not_fits (h : ¬ Fits capacity start count) :
    check region capacity start count = .error (refusal region capacity start count) := by
  unfold refusal
  split
  · next large => exact check_eq_overflow large
  · next word =>
    have beyond : capacity < start + count := by
      apply Nat.lt_of_not_le
      intro inside
      exact h ⟨Nat.lt_of_not_le word, inside⟩
    exact check_eq_pastEnd (Nat.lt_of_not_le word) beyond

/-- A range that passes fits. -/
theorem fits_of_check_eq_ok {w : Window capacity} (h : check region capacity start count = .ok w) :
    Fits capacity start count := by
  by_cases fits : Fits capacity start count
  · exact fits
  · simp [check_of_not_fits fits] at h

/-- A range fits where its front fits and the rest of it fits behind the front. -/
theorem fits_add {first second : Nat} :
    Fits capacity start (first + second) ↔
      Fits capacity start first ∧ Fits capacity (start + first) second := by
  constructor
  · rintro ⟨word, inside⟩
    exact ⟨⟨by omega, by omega⟩, ⟨by omega, by omega⟩⟩
  · rintro ⟨-, word, inside⟩
    exact ⟨by omega, by omega⟩

/-- A refusal blames the region whose range it was. -/
@[simp] theorem region_refusal : (refusal region capacity start count).region = region := by
  simp only [refusal]
  split <;> rfl

/-- Where the end of a range is no word, its capacity does not matter. -/
theorem refusal_of_overflow (h : AddressSpace.wordLimit ≤ start + count) :
    refusal region capacity start count = ⟨region, .overflow⟩ := by
  simp [refusal, h]

/-- A range that does not end at a word fits nowhere. -/
theorem not_fits_of_overflow (h : AddressSpace.wordLimit ≤ start + count) :
    ¬ Fits capacity start count :=
  fun fits => Nat.not_lt.2 h fits.word

/-- Blocks pass where the range of their bytes fits. -/
theorem checkBlocks_of_fits (h : Fits capacity start (len * width)) :
    checkBlocks width capacity start len = .ok (ofFits h) := by
  rw [checkBlocks_eq_check, check_of_fits h]

/-- Blocks are refused where the range of their bytes does not fit. -/
theorem checkBlocks_of_not_fits (h : ¬ Fits capacity start (len * width)) :
    checkBlocks width capacity start len =
      .error (refusal .bytes capacity start (len * width)) := by
  rw [checkBlocks_eq_check, check_of_not_fits h]

end BytePacking.Window
