import BytePacking.Pack
import BytePacking.View

/-!
# From views to bytes

The bytes of all elements of a view, in logical order, in a new buffer.  No offset is involved, so
no range can be refused; there is a trap where the buffer cannot exist, and where the view presents
addresses that its memory does not have.  The number of bytes is not checked before: whether it is
too large for an array or not even a word, there is no such buffer.
-/

set_option autoImplicit false

namespace BytePacking.View

/-- The bytes of all elements of a view, in logical order. -/
def pack {ε : Type} {t : ElementType} (v : View (Element t)) : Outcome ε (List UInt8) := do
  let fresh ← AddressSpace.allocate 1 (v.shape.size * t.width) (0 : UInt8)
  let values ← v.elements
  (Blocks.overwrite t.width Element.overwrite values fresh).result

/-- A view whose elements can be read is packed by joining their bytes in logical order. -/
theorem pack_eq_ok {ε : Type} {t : ElementType} {v : View (Element t)} {values : List (Element t)}
    (fits : v.shape.size * t.width ≤ AddressSpace.allocationLimit)
    (read : (v.elements : Outcome ε (List (Element t))) = .ok values)
    (count : values.length = v.shape.size) :
    (v.pack : Outcome ε (List UInt8)) = .ok (values.flatMap Element.toBytes) := by
  unfold pack
  rw [AddressSpace.allocate_eq_ok _ (by omega), Outcome.ok_bind, read, Outcome.ok_bind,
    overwrite_blocks_eq_done (by simp [count])]
  simp [count]

end BytePacking.View
