import BytePacking.View

/-!
# Transformations of views

A transformation rearranges the axes of a view, or keeps some of the positions of one axis.  It
moves no element: only the origin and the axes change, and the memory stays (`memory_transform?`).

`View.transform?` applies a transformation, and has no result where the transformation speaks of an
axis or a position that the view does not have.  `Transform.source` says the same of indices: it is
the index, before the transformation, of the element at an index after it.
-/

set_option autoImplicit false

namespace BytePacking

/-- A rearrangement of the axes and positions of a view. -/
inductive Transform where
  /-- The axes in reverse order. -/
  | reverseAxes
  /-- The axes in a new order: the axis at a place is the one that `order` names there. -/
  | permute (order : List Nat)
  /-- The positions of one axis in reverse order. -/
  | invert (axis : Nat)
  /-- Of one axis the positions in `start ≤ · < stop` that are reached in steps of `step`: upwards
  from `start`, or downwards from the last one if the step is negative. -/
  | slice (axis start stop : Nat) (step : Int)
  /-- Position `position` of one axis, which is dropped. -/
  | select (axis position : Nat)
  /-- A new axis of length one before the place `axis`. -/
  | insert (axis : Nat)
  deriving Repr, DecidableEq

namespace Transform

/-- The first position that a slice takes. -/
def sliceOrigin (start stop : Nat) (step : Int) : Int :=
  if 0 < step then (start : Int) else (stop : Int) - 1

/-- The number of positions that a slice takes. -/
def sliceLength (start stop : Nat) (step : Int) : Nat :=
  (stop - start + (step.natAbs - 1)) / step.natAbs

/-- The index, in an array with axes of the given lengths, of the element that is at `index` after
the transformation. -/
def source (transform : Transform) (lengths : Shape) (index : List Nat) : List Nat :=
  match transform with
  | reverseAxes => index.reverse
  | permute order => (List.range lengths.length).map fun axis => index.getD (order.idxOf axis) 0
  | invert axis => index.modify axis fun position => lengths.getD axis 0 - 1 - position
  | slice axis start stop step =>
    index.modify axis fun position => (sliceOrigin start stop step + step * position).toNat
  | select axis position => index.insertIdx axis position
  | insert axis => index.eraseIdx axis

end Transform

namespace View

variable {α : Type}

/-- Replaces one axis and moves the origin. -/
def replaceAxis (v : View α) (axis : Nat) (new : Axis) (shift : Int) : View α :=
  { v with origin := v.origin + shift, axes := v.axes.set axis new }

/-- The view after a transformation. -/
def transform? (v : View α) : Transform → Option (View α)
  | .reverseAxes => some { v with axes := v.axes.reverse }
  | .permute order =>
    if order.Perm (List.range v.axes.length) then
      some { v with axes := order.filterMap (v.axes[·]?) }
    else none
  | .invert axis => do
    let old ← v.axes[axis]?
    return v.replaceAxis axis ⟨old.length, -old.stride⟩ (old.stride * (old.length - 1))
  | .slice axis start stop step => do
    let old ← v.axes[axis]?
    guard (start ≤ stop ∧ stop ≤ old.length ∧ step ≠ 0)
    return v.replaceAxis axis ⟨Transform.sliceLength start stop step, old.stride * step⟩
      (old.stride * Transform.sliceOrigin start stop step)
  | .select axis position => do
    let old ← v.axes[axis]?
    guard (position < old.length)
    return { v with
      origin := v.origin + old.stride * position
      axes := v.axes.eraseIdx axis }
  | .insert axis =>
    if axis ≤ v.axes.length then some { v with axes := v.axes.insertIdx axis ⟨1, 0⟩ } else none

/-- A transformation moves no element. -/
theorem memory_transform? {v w : View α} {transform : Transform}
    (h : v.transform? transform = some w) : w.memory = v.memory := by
  cases transform with
  | reverseAxes =>
    obtain rfl := Option.some.inj h
    rfl
  | permute order =>
    obtain ⟨-, h⟩ := Option.ite_none_right_eq_some.1 h
    obtain rfl := Option.some.inj h
    rfl
  | invert axis =>
    obtain ⟨old, -, h⟩ := Option.bind_eq_some_iff.1 h
    obtain rfl := Option.some.inj h
    rfl
  | slice axis start stop step =>
    obtain ⟨old, -, h⟩ := Option.bind_eq_some_iff.1 h
    obtain ⟨-, -, h⟩ := Option.bind_eq_some_iff.1 h
    obtain rfl := Option.some.inj h
    rfl
  | select axis position =>
    obtain ⟨old, -, h⟩ := Option.bind_eq_some_iff.1 h
    obtain ⟨-, -, h⟩ := Option.bind_eq_some_iff.1 h
    obtain rfl := Option.some.inj h
    rfl
  | insert axis =>
    obtain ⟨-, h⟩ := Option.ite_none_right_eq_some.1 h
    obtain rfl := Option.some.inj h
    rfl

/-- The view after a chain of transformations. -/
def transformAll? (v : View α) (transforms : List Transform) : Option (View α) :=
  transforms.foldlM transform? v

/-- A chain begins with its first transformation. -/
theorem transformAll?_cons (v : View α) (transform : Transform) (transforms : List Transform) :
    v.transformAll? (transform :: transforms) =
      (v.transform? transform).bind (·.transformAll? transforms) := rfl

end View

end BytePacking
