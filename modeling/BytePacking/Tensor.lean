import BytePacking.Shape

/-!
# Arrays with a shape

A `Tensor` holds the elements of an array of any number of axes in logical order.  Both that the
elements are as many as the shape asks for and that an array of this shape can be held in memory
are part of the type; `ofList?` is the way to one.
-/

set_option autoImplicit false

namespace BytePacking

/-- An array of some shape, with its elements in logical order. -/
structure Tensor (α : Type) where
  /-- The lengths of the axes. -/
  shape : Shape
  /-- The elements, the last axis running fastest. -/
  values : List α
  /-- There is one element for each index. -/
  length_values : values.length = shape.size
  /-- The array can be held in memory. -/
  allocatable : shape.Allocatable
  deriving Repr, DecidableEq

namespace Tensor

variable {α : Type}

/-- The array of the given shape with the given elements, if they are as many as it asks for and
the array can be held in memory. -/
def ofList? (shape : Shape) (values : List α) : Option (Tensor α) :=
  if h : values.length = shape.size ∧ shape.Allocatable then some ⟨shape, values, h.1, h.2⟩
  else none

/-- The element at an index. -/
def get? (a : Tensor α) (index : List Nat) : Option α :=
  if a.shape.Contains index then a.values[a.shape.rank index]? else none

/-- The array of a list is the one with this shape and these elements. -/
theorem ofList?_eq_some_iff {shape : Shape} {values : List α} {a : Tensor α} :
    ofList? shape values = some a ↔ a.shape = shape ∧ a.values = values := by
  unfold ofList?
  split
  · rw [Option.some_inj]
    constructor
    · rintro rfl
      exact ⟨rfl, rfl⟩
    · obtain ⟨_, _, _, _⟩ := a
      rintro ⟨rfl, rfl⟩
      rfl
  · next h =>
    simp only [reduceCtorEq, false_iff, not_and]
    rintro rfl rfl
    exact h ⟨a.length_values, a.allocatable⟩

end Tensor

end BytePacking
