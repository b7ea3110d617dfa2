import BytePacking.Proofs.Endings
import BytePacking.Proofs.Shape.Extent
import BytePacking.Tensor.Unpack

/-!
# How the unpacking of an array ends

An array of a shape that can be held in memory is unpacked wherever its bytes are
(`exists_unpack_eq_ok`), since the number of its elements can be computed then.  Conversely an array
that was unpacked has the shape that was asked for and the elements of the bytes that are there
(`fits_of_unpack_eq_ok`).
-/

set_option autoImplicit false

namespace BytePacking.Tensor

variable {t : ElementType}

/-- An array is unpacked where the bytes exist and an array of its shape can be held in memory. -/
theorem exists_unpack_eq_ok {bytes : List UInt8} {byteStart : Nat} {shape : Shape}
    (allocatable : shape.Allocatable)
    (source : Window.Fits bytes.length byteStart (shape.size * t.width))
    (room : shape.size * t.width ≤ AddressSpace.allocationLimit) :
    ∃ a, unpack t bytes byteStart shape = .ok a ∧ a.shape = shape ∧
      a.values =
        (Blocks.cut t.width shape.size (bytes.drop byteStart)).map (Element.ofBlock t) := by
  have limit := AddressSpace.allocationLimit_lt_wordLimit
  have few : shape.size ≤ shape.size * t.width := t.le_mul_width _
  have read : BytePacking.unpack t bytes byteStart 0 shape.size =
      .ok ((Blocks.cut t.width shape.size (bytes.drop byteStart)).map (Element.ofBlock t)) := by
    rw [unpack_eq, if_pos source, Nat.zero_add, if_pos (by omega), if_pos room]
    rfl
  have count := Element.length_map_ofBlock_cut (t := t) shape.size (bytes.drop byteStart)
  refine ⟨⟨shape, _, count, allocatable⟩, ?_, rfl, rfl⟩
  rw [unpack, Shape.count?_of_allocatable allocatable, Outcome.ofOption_some, Outcome.ok_bind, read,
    Outcome.ok_bind, ofList?, dif_pos ⟨count, allocatable⟩]
  rfl

/-- An array that was unpacked has the shape that was asked for, and its elements are unpacked as a
range. -/
theorem unpack_values_of_unpack_eq_ok {bytes : List UInt8} {byteStart : Nat} {shape : Shape}
    {a : Tensor (Element t)} (h : unpack t bytes byteStart shape = .ok a) :
    a.shape = shape ∧ BytePacking.unpack t bytes byteStart 0 shape.size = .ok a.values := by
  obtain ⟨count, counted, rest⟩ := Outcome.bind_eq_ok_iff.1 h
  obtain ⟨values, read, formed⟩ := Outcome.bind_eq_ok_iff.1 rest
  obtain rfl := Shape.eq_size_of_count? (Outcome.ofOption_eq_ok_iff.1 counted)
  obtain ⟨sameShape, sameValues⟩ := ofList?_eq_some_iff.1 (Outcome.ofOption_eq_ok_iff.1 formed)
  exact ⟨sameShape, by rw [read, sameValues]⟩

/-- What a successful unpacking of an array tells about its bytes, and what it gives. -/
theorem fits_of_unpack_eq_ok {bytes : List UInt8} {byteStart : Nat} {shape : Shape}
    {a : Tensor (Element t)} (h : unpack t bytes byteStart shape = .ok a) :
    Window.Fits bytes.length byteStart (shape.size * t.width) ∧
      shape.size * t.width ≤ AddressSpace.allocationLimit ∧ a.shape = shape ∧
      a.values =
        (Blocks.cut t.width shape.size (bytes.drop byteStart)).map (Element.ofBlock t) := by
  obtain ⟨sameShape, read⟩ := unpack_values_of_unpack_eq_ok h
  obtain ⟨source, -, elements⟩ := BytePacking.fits_of_unpack_eq_ok read
  have room := room_of_unpack_eq_ok read
  rw [Nat.zero_add] at room
  exact ⟨source, room, sameShape, elements⟩

end BytePacking.Tensor
