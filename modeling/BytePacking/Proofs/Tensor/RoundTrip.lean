import BytePacking.Proofs.RoundTrip
import BytePacking.Proofs.Tensor.Endings
import BytePacking.Proofs.View.Reading

/-!
# Packing views and unpacking arrays undo each other

The bytes of a view, whatever was done to the memory that it presents, are unpacked to an array of
the view's shape with the view's elements; and an array that was unpacked is packed to the bytes
that it came from (`unpack_packed_view`).

Unpacking refuses a shape for three reasons: its number of elements is not a word, the bytes are not
there, or an array of this shape cannot be held in memory.  None of them applies to the shape of a
view, not even where some of its axes are empty and others are long: that an array can be held in
memory is a bound on the extent of its shape, and no transformation enlarges the extent.
-/

set_option autoImplicit false

namespace BytePacking.Tensor

variable {t : ElementType}

/-- The bytes of a view are unpacked to an array of its shape, with its elements at their indices;
as for every array, it is understood that the memory that the view presents can be held.  Conversely
an array that was unpacked is packed to the bytes from which it was read. -/
theorem unpack_packed_view :
    (∀ (layout : Layout) (shape : Shape) (memory : List (Element t)) (whole v : View (Element t))
      (transforms : List Transform),
      memory.length * t.width ≤ AddressSpace.allocationLimit →
      View.ofList? layout shape memory = some whole →
      whole.transformAll? transforms = some v →
      ∃ packed a, (v.pack : Outcome RangeError (List UInt8)) = .ok packed ∧
        unpack t packed 0 v.shape = .ok a ∧ a.shape = v.shape ∧
        ∀ index, v.shape.Contains index →
          ∃ x, (v.read (v.address index) : Outcome RangeError (Element t)) = .ok x ∧
            a.get? index = some x) ∧
    ∀ (bytes : List UInt8) (byteStart : Nat) (shape : Shape) (a : Tensor (Element t)),
      unpack t bytes byteStart shape = .ok a →
      a.shape = shape ∧ byteStart + shape.size * t.width ≤ bytes.length ∧
        (a.view.pack : Outcome RangeError (List UInt8)) =
          .ok ((bytes.drop byteStart).take (shape.size * t.width)) := by
  constructor
  · intro layout shape memory whole v transforms held based transformed
    obtain ⟨readable, same⟩ := View.readable_of_transformAll? based transformed
    rw [← same] at held
    obtain ⟨values, packed, count, single⟩ := readable.exists_pack_eq_ok (ε := RangeError) held
    have room : v.shape.size * t.width ≤ AddressSpace.allocationLimit :=
      Nat.le_trans (Nat.mul_le_mul_right _ readable.size) held
    have limit := AddressSpace.allocationLimit_lt_wordLimit
    have source : Window.Fits (values.flatMap Element.toBytes).length 0
        (v.shape.size * t.width) := by
      rw [Element.length_flatMap_toBytes, count]
      exact ⟨by omega, by omega⟩
    obtain ⟨a, unpacked, sameShape, elements⟩ :=
      exists_unpack_eq_ok readable.allocatable source room
    -- Both lists of elements are in logical order, so they agree at every rank.
    have sameValues : a.values = values := by
      have back := Element.map_ofBlock_cut_flatMap values []
      rwa [List.append_nil, count, ← List.drop_zero (l := values.flatMap Element.toBytes),
        ← elements] at back
    refine ⟨_, a, packed, unpacked, sameShape, ?_⟩
    intro index inside
    obtain ⟨x, here, value⟩ := single index inside
    refine ⟨x, here, ?_⟩
    rw [get?, sameShape, if_pos inside, sameValues, value]
  · intro bytes byteStart shape a unpacked
    obtain ⟨source, room, sameShape, elements⟩ := fits_of_unpack_eq_ok unpacked
    refine ⟨sameShape, source.inside, ?_⟩
    have fits : a.view.shape.size * t.width ≤ AddressSpace.allocationLimit := by
      rwa [shape_view, sameShape]
    have count : a.values.length = a.view.shape.size := by
      rw [shape_view]
      exact a.length_values
    rw [View.pack_eq_ok fits (View.elements_view a) count, elements,
      flatMap_toBytes_of_window source]

/-- The first and the last column of an array that lies column by column: the last one first, each
from its end, with a new axis between; and an array of one column, read from the middle of a
buffer. -/
theorem unpack_packed_columns :
    (∃ whole v : View (Element .int16),
      View.ofList? .columnMajor [2, 3] [⟨1⟩, ⟨2⟩, ⟨3⟩, ⟨4⟩, ⟨5⟩, ⟨0xFFFE⟩] = some whole ∧
      whole.transformAll? [.reverseAxes, .slice 0 0 3 (-2), .insert 1, .invert 2] = some v ∧
      v.shape = [2, 1, 2] ∧
      (v.pack : Outcome RangeError (List UInt8)) = .ok [0xFF, 0xFE, 0, 5, 0, 2, 0, 1] ∧
      ∃ packed a, (v.pack : Outcome RangeError (List UInt8)) = .ok packed ∧
        unpack .int16 packed 0 v.shape = .ok a ∧ a.shape = v.shape ∧
        ∀ index, v.shape.Contains index →
          ∃ x, (v.read (v.address index) : Outcome RangeError (Element .int16)) = .ok x ∧
            a.get? index = some x) ∧
    ∃ a : Tensor (Element .int16),
      unpack .int16 [7, 0xFF, 0xFE, 0, 5, 7] 1 [2, 1] = .ok a ∧
      (a.view.pack : Outcome RangeError (List UInt8)) = .ok [0xFF, 0xFE, 0, 5] := by
  constructor
  · have based : View.ofList? .columnMajor [2, 3]
        ([⟨1⟩, ⟨2⟩, ⟨3⟩, ⟨4⟩, ⟨5⟩, ⟨0xFFFE⟩] : List (Element .int16)) =
          some ⟨#[⟨1⟩, ⟨2⟩, ⟨3⟩, ⟨4⟩, ⟨5⟩, ⟨0xFFFE⟩], 0, [⟨2, 1⟩, ⟨3, 2⟩]⟩ := by decide
    have transformed : (⟨#[⟨1⟩, ⟨2⟩, ⟨3⟩, ⟨4⟩, ⟨5⟩, ⟨0xFFFE⟩], 0, [⟨2, 1⟩, ⟨3, 2⟩]⟩ :
        View (Element .int16)).transformAll?
          [.reverseAxes, .slice 0 0 3 (-2), .insert 1, .invert 2] =
        some ⟨#[⟨1⟩, ⟨2⟩, ⟨3⟩, ⟨4⟩, ⟨5⟩, ⟨0xFFFE⟩], 5, [⟨2, -4⟩, ⟨1, 0⟩, ⟨2, -1⟩]⟩ := by decide
    exact ⟨_, _, based, transformed, by decide, by decide,
      unpack_packed_view.1 _ _ _ _ _ _ (by decide) based transformed⟩
  · have unpacked : unpack .int16 [7, 0xFF, 0xFE, 0, 5, 7] 1 [2, 1] =
        .ok ⟨[2, 1], [⟨0xFFFE⟩, ⟨5⟩], by decide, by decide⟩ := by decide
    exact ⟨_, unpacked, (unpack_packed_view.2 _ _ _ _ unpacked).2.2⟩

end BytePacking.Tensor
