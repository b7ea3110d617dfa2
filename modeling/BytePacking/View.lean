import BytePacking.Tensor

/-!
# Views of a memory

A view presents a memory as an array with a shape, without moving any element: each axis has a
length and a stride, and the address of an index is the origin plus the strides taken as often as
its positions say.  Strides may be negative, so that an axis may run backwards.

`base` is the view of a whole memory in one of two layouts.  `elements` reads a view in logical
order; an address outside the memory is a trap.
-/

set_option autoImplicit false

namespace BytePacking

/-- The order in which the elements of an array lie in memory. -/
inductive Layout where
  /-- The last axis runs fastest. -/
  | rowMajor
  /-- The first axis runs fastest. -/
  | columnMajor
  deriving Repr, DecidableEq

namespace Layout

/-- How far apart in memory two neighbours on each axis of a shape are. -/
def strides : Layout → Shape → List Nat
  | _, [] => []
  | rowMajor, _ :: shape => Shape.size shape :: strides rowMajor shape
  | columnMajor, length :: shape => 1 :: (strides columnMajor shape).map (length * ·)

/-- Every axis has a stride. -/
@[simp] theorem length_strides (layout : Layout) (shape : Shape) :
    (layout.strides shape).length = shape.length := by
  induction shape with
  | nil => rfl
  | cons length shape ih => cases layout <;> simp [strides, ih]

end Layout

/-- One axis of a view. -/
structure Axis where
  /-- The number of positions. -/
  length : Nat
  /-- The step in memory from one position to the next. -/
  stride : Int
  deriving Repr, DecidableEq

/-- A memory presented as an array with a shape. -/
structure View (α : Type) where
  /-- The elements that are presented, in the order in which they lie. -/
  memory : Array α
  /-- The address of the element whose positions are all zero. -/
  origin : Int
  /-- The axes, from the first to the last. -/
  axes : List Axis
  deriving Repr, DecidableEq

namespace View

variable {ε α : Type}

/-- The view of a whole memory that holds an array of the given shape in the given layout. -/
def base (layout : Layout) (shape : Shape) (memory : List α) : View α where
  memory := memory.toArray
  origin := 0
  axes := List.zipWith (fun length (stride : Nat) => ⟨length, stride⟩) shape (layout.strides shape)

/-- The view of a whole memory, if it has as many elements as the shape asks for and an array of
this shape can be held in memory. -/
def ofList? (layout : Layout) (shape : Shape) (memory : List α) : Option (View α) :=
  if memory.length = shape.size ∧ shape.Allocatable then some (base layout shape memory) else none

/-- The lengths of the axes. -/
def shape (v : View α) : Shape := v.axes.map Axis.length

/-- The address of an index. -/
def address (v : View α) (index : List Nat) : Int :=
  (List.zipWith (fun axis position => axis.stride * Int.ofNat position) v.axes index).foldr (· + ·)
    v.origin

/-- The element at an address. -/
def read (v : View α) (address : Int) : Outcome ε α :=
  if address < 0 then .trap else Outcome.ofOptionOrTrap v.memory[address.toNat]?

/-- The elements of a view in logical order. -/
def elements (v : View α) : Outcome ε (List α) :=
  v.shape.indices.mapM fun index => v.read (v.address index)

/-- The view of a base has the shape it was asked for. -/
@[simp] theorem shape_base (layout : Layout) (shape : Shape) (memory : List α) :
    (base layout shape memory).shape = shape := by
  have lengths (xs strides : List Nat) (h : strides.length = xs.length) :
      (List.zipWith (fun length (stride : Nat) => (⟨length, stride⟩ : Axis)) xs strides).map
        Axis.length = xs := by
    induction xs generalizing strides with
    | nil => simp
    | cons x xs ih =>
      cases strides with
      | nil => cases h
      | cons stride strides => simp [ih strides (by simpa using h)]
  exact lengths _ _ (by simp)

end View

/-- An array seen as a view of its own elements. -/
def Tensor.view {α : Type} (a : Tensor α) : View α := .base .rowMajor a.shape a.values

/-- An array has the same shape when it is seen as a view. -/
@[simp] theorem Tensor.shape_view {α : Type} (a : Tensor α) : a.view.shape = a.shape :=
  View.shape_base ..

end BytePacking
