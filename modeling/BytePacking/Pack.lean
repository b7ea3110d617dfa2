import BytePacking.Blocks
import BytePacking.Element
import BytePacking.Window

/-!
# From elements to bytes

The bytes of elements are written to a byte buffer, from any offset on: into a buffer in place, into
a new buffer, all elements of a list, or a single one.

Writing in place checks the range of elements first and then the range of bytes, both before it
touches the destination.  Writing into a new buffer makes that buffer just long enough, so that
the range of bytes can fail only by an end that is not a word; where no such buffer can exist the
operation traps.

What a successful operation leaves is said in terms of `Element.toBytes` alone: `packInto_eq_done`,
`packOne_eq_ok` and `packAll_eq_ok`.
-/

set_option autoImplicit false

namespace BytePacking

variable {t : ElementType}

/-! ## Operations -/

/-- Writes the `len` elements from `arrayStart` on over the bytes of `dest` from `byteStart` on. -/
def packInto (values : List (Element t)) (arrayStart : Nat) (dest : List UInt8)
    (byteStart len : Nat) : Update RangeError (List UInt8) :=
  let ranges : Except RangeError (Window values.length × Window dest.length) := do
    let source ← Window.check .elements values.length arrayStart len
    let target ← Window.checkBlocks t.width dest.length byteStart len
    return (source, target)
  Update.checked dest ranges fun (source, target) =>
    target.modify dest (Blocks.overwrite t.width Element.overwrite (source.slice values))

/-- Writes the `len` elements from `arrayStart` on to a new buffer, behind `byteStart` zero
bytes. -/
def pack (values : List (Element t)) (arrayStart byteStart len : Nat) :
    Outcome RangeError (List UInt8) := do
  let _ ← Outcome.ofExcept (Window.check .elements values.length arrayStart len)
  let size := (AddressSpace.mul? len t.width).bind (AddressSpace.add? · byteStart)
  let total ← Outcome.ofOption ⟨.bytes, .overflow⟩ size
  let fresh ← AddressSpace.allocate 1 total (0 : UInt8)
  (packInto values arrayStart fresh byteStart len).result

/-- The bytes of a single element, in a new buffer. -/
def packOne {ε : Type} (v : Element t) : Outcome ε (List UInt8) := do
  let fresh ← AddressSpace.allocate 1 t.width (0 : UInt8)
  (v.overwrite fresh).result

/-- The bytes of all elements of a list, in order, in a new buffer. -/
def packAll {ε : Type} (values : List (Element t)) : Outcome ε (List UInt8) := do
  let fresh ← AddressSpace.allocate 1 (values.length * t.width) (0 : UInt8)
  (Blocks.overwrite t.width Element.overwrite values fresh).result

/-- Writes the bytes of one element over those of `dest` from byte `start` on. -/
def store (v : Element t) (dest : List UInt8) (start : Nat) : Update RangeError (List UInt8) :=
  Update.checked dest (Window.checkBlocks t.width dest.length start 1) fun block =>
    block.modify dest v.overwrite

/-! ## What is written -/

/-- Over a block as wide as each of them, elements are written without fail. -/
theorem overwrite_blocks_eq_done {ε : Type} {values : List (Element t)} {xs : List UInt8}
    (enough : values.length * t.width ≤ xs.length) :
    (Blocks.overwrite t.width Element.overwrite values xs : Update ε (List UInt8)) =
      .done (values.flatMap Element.toBytes ++ xs.drop (values.length * t.width)) :=
  Blocks.overwrite_eq_done t.width_pos (fun v _ h => v.overwrite_of_length_eq h) enough

/-- Where both ranges fit, the bytes of the elements replace those of the destination, and all other
bytes stay. -/
theorem packInto_eq_done {values : List (Element t)} {arrayStart : Nat} {dest : List UInt8}
    {byteStart len : Nat} (arrayWord : arrayStart + len < AddressSpace.wordLimit)
    (arrayFits : arrayStart + len ≤ values.length)
    (byteWord : byteStart + len * t.width < AddressSpace.wordLimit)
    (bytesFit : byteStart + len * t.width ≤ dest.length) :
    packInto values arrayStart dest byteStart len =
      .done (dest.take byteStart ++
        ((values.drop arrayStart).take len).flatMap Element.toBytes ++
        dest.drop (byteStart + len * t.width)) := by
  unfold packInto
  rw [Window.check_eq_ok arrayWord arrayFits, Window.checkBlocks_eq_ok byteWord bytesFit]
  have sources : ((values.drop arrayStart).take len).length = len := by
    rw [List.length_take, List.length_drop, Nat.min_eq_left (by omega)]
  have room : ((dest.drop byteStart).take (len * t.width)).length = len * t.width := by
    rw [List.length_take, List.length_drop, Nat.min_eq_left (by omega)]
  have written : (Blocks.overwrite t.width Element.overwrite ((values.drop arrayStart).take len)
      ((dest.drop byteStart).take (len * t.width)) : Update RangeError (List UInt8)) =
        .done (((values.drop arrayStart).take len).flatMap Element.toBytes) := by
    rw [overwrite_blocks_eq_done (Nat.le_of_eq (by rw [sources, room])), sources,
      List.drop_eq_nil_of_le (Nat.le_of_eq room), List.append_nil]
  simp only [bind, Except.bind, pure, Except.pure, Update.checked_ok, Window.modify, Window.slice,
    Nat.add_sub_cancel_left, written]
  rfl

/-- A single element is packed to its bytes, for which there is always room. -/
theorem packOne_eq_ok {ε : Type} (v : Element t) :
    (packOne v : Outcome ε (List UInt8)) = .ok v.toBytes := by
  have narrow : t.width * 1 ≤ AddressSpace.allocationLimit := by
    have width := t.width_le_eight
    have limit : 8 ≤ AddressSpace.allocationLimit := by decide
    omega
  unfold packOne
  rw [AddressSpace.allocate_eq_ok _ narrow, Outcome.ok_bind,
    v.overwrite_of_length_eq List.length_replicate, Update.result_done]

/-- All elements of a list are packed by joining their bytes. -/
theorem packAll_eq_ok {ε : Type} {values : List (Element t)}
    (h : values.length * t.width ≤ AddressSpace.allocationLimit) :
    (packAll values : Outcome ε (List UInt8)) = .ok (values.flatMap Element.toBytes) := by
  unfold packAll
  rw [AddressSpace.allocate_eq_ok _ (by omega), Outcome.ok_bind,
    overwrite_blocks_eq_done (by simp)]
  simp

end BytePacking
