import BytePacking.Shape

/-!
# Sizes of shapes whose axes change

The two sizes of a shape, `size` and `extent`, are products over its axes.  So they do not depend on
the order of the axes (`size_eq_of_perm`, `extent_eq_of_perm`), and shapes that are put together
have the products of their sizes.  An axis counts in the extent at least once, even if it is empty;
hence the extent shrinks when an axis is shortened or dropped.

The extent also bounds every product that is computed on the way to the number of elements.  An
array that can be held in memory therefore has a number of elements that can be computed, whichever
of its axes are empty (`count?_of_allocatable`).  In general the first axes decide, which come
before the first empty one (`count?_eq_none_iff`).
-/

set_option autoImplicit false

namespace BytePacking.Shape

/-- Two shapes that are put together have the product of their sizes. -/
theorem size_append (xs ys : Shape) : size (xs ++ ys) = size xs * size ys := by
  induction xs with
  | nil => simp
  | cons x xs ih => rw [List.cons_append, size_cons, size_cons, ih, Nat.mul_assoc]

/-- The order of the axes makes no difference to the number of elements. -/
theorem size_eq_of_perm {xs ys : Shape} (h : xs.Perm ys) : size xs = size ys := by
  induction h with
  | nil => rfl
  | cons x _ ih => rw [size_cons, size_cons, ih]
  | swap x y zs => simp only [size_cons, Nat.mul_left_comm]
  | trans _ _ first second => exact first.trans second

/-- Two shapes that are put together have the product of their extents. -/
theorem extent_append (xs ys : Shape) : extent (xs ++ ys) = extent xs * extent ys := by
  rw [extent, List.filter_append, size_append]
  rfl

/-- The order of the axes makes no difference to the extent. -/
theorem extent_eq_of_perm {xs ys : Shape} (h : xs.Perm ys) : extent xs = extent ys :=
  size_eq_of_perm (h.filter _)

/-- Each axis counts at least once. -/
theorem extent_cons (length : Nat) (shape : Shape) :
    extent (length :: shape) = max 1 length * extent shape := by
  by_cases empty : length = 0
  · subst empty
    simp [extent]
  · have kept : (length :: shape).filter (· ≠ 0) = length :: shape.filter (· ≠ 0) :=
      List.filter_cons_of_pos (by simpa using empty)
    rw [extent, kept, size_cons, Nat.max_eq_right (by omega)]
    rfl

/-- The extent is never zero, not even where there are no elements. -/
theorem extent_pos (shape : Shape) : 0 < extent shape := by
  induction shape with
  | nil => decide
  | cons length shape ih =>
    rw [extent_cons]
    exact Nat.mul_pos (by omega) ih

/-- Only empty axes make a difference between the two sizes. -/
theorem extent_eq_size {shape : Shape} (h : size shape ≠ 0) : extent shape = size shape := by
  induction shape with
  | nil => rfl
  | cons length shape ih =>
    obtain ⟨first, others⟩ := Nat.mul_ne_zero_iff.1 h
    rw [extent_cons, ih others, size_cons, Nat.max_eq_right (by omega)]

/-- A single axis can be as long as an array can have bytes. -/
theorem allocatable_singleton {length : Nat} :
    Allocatable [length] ↔ length ≤ AddressSpace.allocationLimit := by
  have one : 1 ≤ AddressSpace.allocationLimit := by decide
  rw [Allocatable, extent_cons, show extent [] = 1 from rfl, Nat.mul_one, Nat.max_le]
  exact and_iff_right one

/-- The products on the way to the number of elements, from any number on, are words if the extent
allows it. -/
theorem foldlM_mul?_of_extent {shape : Shape} {start : Nat}
    (h : start * extent shape < AddressSpace.wordLimit) :
    shape.foldlM AddressSpace.mul? start = some (start * size shape) := by
  induction shape generalizing start with
  | nil => simp
  | cons length shape ih =>
    have whole : start * length * extent shape ≤ start * extent (length :: shape) := by
      rw [extent_cons, Nat.mul_assoc]
      exact Nat.mul_le_mul_left _ (Nat.mul_le_mul_right _ (Nat.le_max_right 1 length))
    have next : start * length ≤ start * length * extent shape :=
      Nat.le_mul_of_pos_right _ (extent_pos shape)
    have product : AddressSpace.mul? start length = some (start * length) :=
      AddressSpace.mul?_eq_some_iff.2 ⟨by omega, rfl⟩
    rw [List.foldlM_cons, product, size_cons, ← Nat.mul_assoc]
    exact ih (by omega)

/-- The number of elements of an array that can be held in memory is computed, in whatever order its
axes come. -/
theorem count?_of_allocatable {shape : Shape} (h : shape.Allocatable) :
    count? shape = some (size shape) := by
  have limit := AddressSpace.allocationLimit_lt_wordLimit
  have small : 1 * extent shape < AddressSpace.wordLimit := by
    rw [Nat.one_mul]
    exact Nat.lt_of_le_of_lt h limit
  rw [count?, foldlM_mul?_of_extent small, Nat.one_mul]

/-- There is no result exactly where some product on the way is not a word. -/
theorem foldlM_mul?_eq_none_iff {shape : Shape} {start : Nat}
    (word : start < AddressSpace.wordLimit) :
    shape.foldlM AddressSpace.mul? start = none ↔
      ∃ front, front <+: shape ∧ AddressSpace.wordLimit ≤ start * size front := by
  induction shape generalizing start with
  | nil =>
    refine iff_of_false nofun ?_
    rintro ⟨front, isFront, large⟩
    obtain rfl := List.prefix_nil.1 isFront
    rw [size_nil] at large
    omega
  | cons length shape ih =>
    rw [List.foldlM_cons]
    by_cases next : start * length < AddressSpace.wordLimit
    · rw [AddressSpace.mul?, if_pos next, Option.bind_eq_bind, Option.bind_some, ih next]
      constructor
      · rintro ⟨front, isFront, large⟩
        rw [Nat.mul_assoc] at large
        exact ⟨length :: front, List.cons_prefix_cons.2 ⟨rfl, isFront⟩, large⟩
      · rintro ⟨front, isFront, large⟩
        rcases List.prefix_cons_iff.1 isFront with rfl | ⟨others, rfl, rest⟩
        · rw [size_nil] at large
          omega
        · rw [size_cons, ← Nat.mul_assoc] at large
          exact ⟨others, rest, large⟩
    · rw [AddressSpace.mul?, if_neg next]
      refine iff_of_true rfl ⟨[length], List.cons_prefix_cons.2 ⟨rfl, List.nil_prefix⟩, ?_⟩
      rw [size_cons, size_nil, Nat.mul_one]
      exact Nat.le_of_not_lt next

/-- The number of elements is not computed exactly where the first axes alone, however many, have a
product that is not a word.  That depends on the order of the axes, since an empty one among them
makes up for all others. -/
theorem count?_eq_none_iff {shape : Shape} :
    count? shape = none ↔
      ∃ front, front <+: shape ∧ AddressSpace.wordLimit ≤ size front := by
  rw [count?, foldlM_mul?_eq_none_iff (by decide)]
  simp only [Nat.one_mul]

/-- The number of elements is computed if every product on the way is a word. -/
theorem count?_eq_some_size {shape : Shape}
    (words : ∀ front, front <+: shape → size front < AddressSpace.wordLimit) :
    count? shape = some (size shape) := by
  cases counted : count? shape with
  | none =>
    obtain ⟨front, isFront, large⟩ := count?_eq_none_iff.1 counted
    exact absurd (words front isFront) (Nat.not_lt.2 large)
  | some n => rw [eq_size_of_count? counted]

end BytePacking.Shape
