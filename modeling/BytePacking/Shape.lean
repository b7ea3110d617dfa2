import BytePacking.AddressSpace

/-!
# Shapes and indices

A shape is the list of the lengths of an array's axes, and an index names one of its elements by a
position on every axis.  In the logical order of elements the last axis runs fastest: `indices`
lists all indices in this order, and `rank` is the place of one of them.

Two sizes of a shape matter.  `size` is the number of elements, which is nought as soon as one axis
is empty; `extent` leaves empty axes out, and it alone decides whether an array of this shape can
be held in memory (`Allocatable`).
-/

set_option autoImplicit false

namespace BytePacking

/-- The lengths of the axes of an array. -/
abbrev Shape := List Nat

namespace Shape

/-! ## Sizes -/

/-- The number of elements: the product of the lengths. -/
def size : Shape → Nat
  | [] => 1
  | length :: shape => length * size shape

/-- The product of the lengths of the axes that are not empty. -/
def extent (shape : Shape) : Nat := size (shape.filter (· ≠ 0))

/-- An array of this shape can be held in memory. -/
def Allocatable (shape : Shape) : Prop := extent shape ≤ AddressSpace.allocationLimit

/-- Whether an array can be held in memory is found by computing its extent. -/
instance (shape : Shape) : Decidable (Allocatable shape) :=
  inferInstanceAs (Decidable (_ ≤ _))

/-- The number of elements, computed from the first axis to the last in the arithmetic of words.
There is no result if any product on the way is not a word, even where a later axis is empty. -/
def count? (shape : Shape) : Option Nat := shape.foldlM AddressSpace.mul? 1

/-- Without axes there is a single element. -/
@[simp] theorem size_nil : size [] = 1 := rfl

/-- Each position on the first axis has as many elements as the other axes make. -/
@[simp] theorem size_cons (length : Nat) (shape : Shape) :
    size (length :: shape) = length * size shape := rfl

/-- The products on the way start from any number in the same manner. -/
theorem eq_mul_size_of_foldlM_mul? {shape : Shape} {start n : Nat}
    (h : shape.foldlM AddressSpace.mul? start = some n) : n = start * size shape := by
  induction shape generalizing start with
  | nil =>
    cases h
    simp
  | cons length shape ih =>
    rw [List.foldlM_cons] at h
    obtain ⟨next, product, others⟩ := Option.bind_eq_some_iff.1 h
    obtain ⟨-, rfl⟩ := AddressSpace.mul?_eq_some_iff.1 product
    rw [ih others, size_cons, Nat.mul_assoc]

/-- What is computed is the number of elements. -/
theorem eq_size_of_count? {shape : Shape} {n : Nat} (h : count? shape = some n) :
    n = size shape := by
  have := eq_mul_size_of_foldlM_mul? h
  omega

/-! ## Indices -/

/-- The index has a position on every axis, and each lies on its axis. -/
def Contains (shape : Shape) (index : List Nat) : Prop :=
  index.length = shape.length ∧ ∀ p ∈ index.zip shape, p.1 < p.2

/-- Whether an index belongs to a shape is found by looking at each position. -/
instance (shape : Shape) (index : List Nat) : Decidable (Contains shape index) :=
  inferInstanceAs (Decidable (_ ∧ _))

/-- The place of an index in the logical order. -/
def rank : Shape → List Nat → Nat
  | _ :: shape, position :: index => position * size shape + rank shape index
  | _, _ => 0

/-- The indices of a shape, the first position running slowest. -/
def enumerate : Shape → List (List Nat)
  | [] => [[]]
  | length :: shape =>
    let rests := enumerate shape
    (List.range length).flatMap fun position => rests.map (position :: ·)

/-- All indices of a shape in logical order.  An empty axis is looked for first, so that none of the
other axes is walked in vain. -/
def indices (shape : Shape) : List (List Nat) := if 0 ∈ shape then [] else enumerate shape

/-- Without axes there is the index without positions. -/
@[simp] theorem contains_nil : Contains [] [] := by
  simp [Contains]

/-- An index is looked at position by position. -/
@[simp] theorem contains_cons {length position : Nat} {shape : Shape} {index : List Nat} :
    Contains (length :: shape) (position :: index) ↔
      position < length ∧ Contains shape index := by
  simp only [Contains, List.length_cons, List.zip_cons_cons, List.forall_mem_cons,
    Nat.add_right_cancel_iff]
  exact and_left_comm

/-- Nothing is enumerated where an axis is empty. -/
theorem enumerate_eq_nil {shape : Shape} (h : 0 ∈ shape) : enumerate shape = [] := by
  induction shape with
  | nil => cases h
  | cons length shape ih =>
    rcases List.mem_cons.1 h with rfl | h
    · simp [enumerate]
    · simp [enumerate, ih h]

/-- Looking for an empty axis first changes no result. -/
theorem indices_eq_enumerate (shape : Shape) : indices shape = enumerate shape := by
  unfold indices
  split
  · next h => exact (enumerate_eq_nil h).symm
  · rfl

/-- There are as many indices as elements. -/
@[simp] theorem length_indices (shape : Shape) : (indices shape).length = size shape := by
  rw [indices_eq_enumerate]
  induction shape with
  | nil => rfl
  | cons length shape ih =>
    simp only [enumerate, List.length_flatMap, List.length_map, ih, List.map_const',
      List.length_range, List.sum_replicate_nat, size_cons]

/-- Every index of a shape is enumerated, and nothing else. -/
theorem mem_enumerate {shape : Shape} {index : List Nat} :
    index ∈ enumerate shape ↔ Contains shape index := by
  induction shape generalizing index with
  | nil => cases index <;> simp [enumerate, Contains]
  | cons length shape ih =>
    cases index with
    | nil => simp [enumerate, Contains]
    | cons position index => simp [enumerate, ih]

end Shape

end BytePacking
