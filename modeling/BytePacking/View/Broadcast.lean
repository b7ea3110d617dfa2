import BytePacking.View

/-!
# Views that repeat what they present

A view can be broadcast to a larger shape.  An axis of length one is stretched to any length, and
new axes come before the first; along both the same elements are presented again and again, since a
step there has no length in memory.  So a view can have more elements than its memory, and more
than the elements of any array that is laid out in memory.
-/

set_option autoImplicit false

namespace BytePacking

/-- The axis as it is, if it has the given length, or its only position at every place of an axis of
that length. -/
def Axis.stretch? (axis : Axis) (length : Nat) : Option Axis :=
  if axis.length = length then some axis
  else if axis.length = 1 then some ⟨length, 0⟩ else none

namespace View

variable {α : Type}

/-- The view with the given shape that repeats the elements of another: the last axes of the shape
belong to those of the other view, and the others are new.  There must be no fewer axes than before,
and an array of the shape must be possible. -/
def broadcast? (v : View α) (shape : Shape) : Option (View α) := do
  guard (v.axes.length ≤ shape.length ∧ shape.Allocatable)
  let new := shape.length - v.axes.length
  let stretched ← (v.axes.zip (shape.drop new)).mapM fun (axis, length) => axis.stretch? length
  return { v with axes := (shape.take new).map (⟨·, 0⟩) ++ stretched }

end View

end BytePacking
