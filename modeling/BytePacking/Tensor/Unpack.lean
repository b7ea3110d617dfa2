import BytePacking.Tensor
import BytePacking.Unpack

/-!
# From bytes to arrays with a shape

The elements of an array of known shape are read from consecutive bytes in logical order.

Three things are checked in turn: that the number of elements is a word, computed from the first
axis to the last; that the bytes are there; and that the array can be held in memory.  The first and
the last are errors of the same kind, an overflow on the side of the elements.
-/

set_option autoImplicit false

namespace BytePacking.Tensor

/-- The array of the given shape whose elements are read from byte `byteStart` on. -/
def unpack (t : ElementType) (bytes : List UInt8) (byteStart : Nat) (shape : Shape) :
    Outcome RangeError (Tensor (Element t)) := do
  let count ← Outcome.ofOption ⟨.elements, .overflow⟩ shape.count?
  let values ← BytePacking.unpack t bytes byteStart 0 count
  Outcome.ofOption ⟨.elements, .overflow⟩ (ofList? shape values)

end BytePacking.Tensor
