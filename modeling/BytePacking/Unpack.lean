import BytePacking.Blocks
import BytePacking.Element
import BytePacking.Window

/-!
# From bytes to elements

Elements of one type are read from a byte buffer, from any offset on: into an array in place, into
a new array, or a single one.

Reading in place checks the range of bytes first and then the range of elements, both before it
touches the destination.  Reading into a new array makes that array just long enough, so that the
range of elements can fail only by an end that is not a word; where no such array can exist the
operation traps.

What a successful operation in place leaves is said in terms of `Element.ofBlock` alone, in
`unpackInto_eq_done`.
-/

set_option autoImplicit false

namespace BytePacking

/-! ## Operations -/

/-- Reads `len` elements from byte `byteStart` on into the slots of `dest` from `destStart` on. -/
def unpackInto {t : ElementType} (bytes : List UInt8) (byteStart : Nat) (dest : List (Element t))
    (destStart len : Nat) : Update RangeError (List (Element t)) :=
  let ranges : Except RangeError (Window bytes.length × Window dest.length) := do
    let source ← Window.checkBlocks t.width bytes.length byteStart len
    let target ← Window.check .elements dest.length destStart len
    return (source, target)
  Update.checked dest ranges fun (source, target) =>
    target.modify dest <|
      overwriteEach (fun block slot => .assign slot (Element.ofBytes t block))
        (Blocks.whole t.width (source.slice bytes))

/-- Reads `len` elements from byte `byteStart` on into a new array, behind `destStart` zero
elements. -/
def unpack (t : ElementType) (bytes : List UInt8) (byteStart destStart len : Nat) :
    Outcome RangeError (List (Element t)) := do
  let _ ← Outcome.ofExcept (Window.checkBlocks t.width bytes.length byteStart len)
  let total ← Outcome.ofOption ⟨.elements, .overflow⟩ (AddressSpace.add? destStart len)
  let fresh ← AddressSpace.allocate t.width total (Element.zero t)
  (unpackInto bytes byteStart fresh destStart len).result

/-- The `len` elements from byte `start` on. -/
def unpackAt (t : ElementType) (bytes : List UInt8) (start len : Nat) :
    Outcome RangeError (List (Element t)) :=
  unpack t bytes start 0 len

/-- The element at byte `start`. -/
def load (t : ElementType) (bytes : List UInt8) (start : Nat) : Outcome RangeError (Element t) := do
  let block ← Outcome.ofExcept (Window.checkBlocks t.width bytes.length start 1)
  Element.ofBytes t (block.slice bytes)

/-! ## What is read -/

/-- Where both ranges fit, the elements read from the blocks of bytes replace those of the
destination, and all other slots keep what they hold. -/
theorem unpackInto_eq_done {t : ElementType} {bytes : List UInt8} {byteStart : Nat}
    {dest : List (Element t)} {destStart len : Nat}
    (byteWord : byteStart + len * t.width < AddressSpace.wordLimit)
    (bytesFit : byteStart + len * t.width ≤ bytes.length)
    (arrayWord : destStart + len < AddressSpace.wordLimit)
    (arrayFits : destStart + len ≤ dest.length) :
    unpackInto bytes byteStart dest destStart len =
      .done (dest.take destStart ++
        (Blocks.cut t.width len (bytes.drop byteStart)).map (Element.ofBlock t) ++
        dest.drop (destStart + len)) := by
  unfold unpackInto
  rw [Window.checkBlocks_eq_ok byteWord bytesFit, Window.check_eq_ok arrayWord arrayFits]
  -- The window of bytes holds exactly `len` blocks, and they are those of the buffer from there on.
  have blocks : Blocks.whole t.width ((bytes.drop byteStart).take (len * t.width)) =
      Blocks.cut t.width len (bytes.drop byteStart) := by
    rw [Blocks.whole, List.length_take, List.length_drop, Nat.min_eq_left (by omega),
      Nat.mul_div_cancel _ t.width_pos, Blocks.cut_take]
  have slots : ((dest.drop destStart).take len).length = len := by
    rw [List.length_take, List.length_drop, Nat.min_eq_left (by omega)]
  have written : overwriteEach
      (fun block slot => (.assign slot (Element.ofBytes t block) : Update RangeError (Element t)))
      (Blocks.cut t.width len (bytes.drop byteStart)) ((dest.drop destStart).take len) =
        .done ((Blocks.cut t.width len (bytes.drop byteStart)).map (Element.ofBlock t)) := by
    rw [overwriteEach_eq_done _ (fun block _ => Element.ofBlock t block)]
    · congr 1
      rw [Blocks.length_cut, List.drop_eq_nil_of_le (Nat.le_of_eq slots), List.append_nil]
      apply List.ext_getElem
      · simp [slots]
      · simp
    · intro p hp
      have width := Blocks.length_of_mem_cut
        (by rw [List.length_drop]; omega) (List.of_mem_zip hp).1
      rw [Element.ofBytes_of_length_eq width, Update.assign_ok]
  simp only [bind, Except.bind, pure, Except.pure, Update.checked_ok, Window.modify, Window.slice,
    Nat.add_sub_cancel_left, blocks, written]
  rfl

end BytePacking
