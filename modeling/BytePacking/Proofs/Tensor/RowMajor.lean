import BytePacking.Proofs.Shape.Rank
import BytePacking.Proofs.UnpackingPaths

/-!
# Where the elements of an unpacked array come from

An array is unpacked as one run of elements, and its indices are laid over them in logical order.  So
the element at an index is the one that is loaded from so many widths behind the first byte as the
rank of the index says (`get?_of_unpack`).

The same is said of the array slab by slab.  The part of it at one position of the first axis is
itself an array, of the shape of the other axes, and it is what is unpacked from its own first byte
(`exists_slab`).  The checks that the whole array has passed are enough for each of its slabs: the
other axes have no larger extent, and their bytes are among those of the whole.
-/

set_option autoImplicit false

namespace BytePacking.Tensor

variable {t : ElementType} {bytes : List UInt8} {byteStart : Nat} {shape : Shape}
  {a : Tensor (Element t)}

/-- The element at an index is the one that is loaded from as many elements behind the start as the
rank of the index says. -/
theorem get?_of_unpack (h : unpack t bytes byteStart shape = .ok a) {index : List Nat}
    (inside : shape.Contains index) :
    ∃ v, load t bytes (byteStart + t.width * shape.rank index) = .ok v ∧
      a.get? index = some v := by
  obtain ⟨rfl, read⟩ := unpack_values_of_unpack_eq_ok h
  obtain ⟨v, loaded, value⟩ :=
    (load_of_unpack_eq_ok read).2 (a.shape.rank index) (Shape.rank_lt_size inside)
  rw [Nat.mul_comm] at loaded
  exact ⟨v, loaded, by rw [get?, if_pos inside, value]⟩

/-- At an index that an array does not have there is no element. -/
theorem get?_of_not_contains {index : List Nat} (outside : ¬ a.shape.Contains index) :
    a.get? index = none :=
  if_neg outside

/-- The slab at a position of the first axis is unpacked from behind those before it. -/
theorem exists_slab {length : Nat} (h : unpack t bytes byteStart (length :: shape) = .ok a)
    {position : Nat} (here : position < length) :
    ∃ slab, unpack t bytes (byteStart + position * shape.size * t.width) shape = .ok slab ∧
      slab.shape = shape ∧ ∀ index, slab.get? index = a.get? (position :: index) := by
  obtain ⟨source, room, sameShape, -⟩ := fits_of_unpack_eq_ok h
  have allocatable : shape.Allocatable := by
    have whole := a.allocatable
    rw [sameShape, Shape.Allocatable, Shape.extent_cons] at whole
    exact Nat.le_trans (Nat.le_mul_of_pos_left _ (by omega)) whole
  -- The slab ends where the next one starts, if there is a next one.
  have part : position * shape.size * t.width + shape.size * t.width ≤
      Shape.size (length :: shape) * t.width := by
    rw [← Nat.add_mul, ← Nat.succ_mul]
    exact Nat.mul_le_mul_right _ (Nat.mul_le_mul_right _ here)
  have partSource : Window.Fits bytes.length (byteStart + position * shape.size * t.width)
      (shape.size * t.width) := by
    have word := source.word
    have inside := source.inside
    exact ⟨by omega, by omega⟩
  obtain ⟨slab, unpacked, slabShape, -⟩ :=
    exists_unpack_eq_ok (t := t) allocatable partSource (by omega)
  refine ⟨slab, unpacked, slabShape, ?_⟩
  intro index
  by_cases there : shape.Contains index
  · -- Both elements are loaded from the same byte.
    obtain ⟨v, loaded, value⟩ := get?_of_unpack unpacked there
    obtain ⟨w, loaded', value'⟩ := get?_of_unpack h (Shape.contains_cons.2 ⟨here, there⟩)
    have place : byteStart + position * shape.size * t.width + t.width * shape.rank index =
        byteStart + t.width * Shape.rank (length :: shape) (position :: index) := by
      rw [Shape.rank, Nat.mul_add, Nat.mul_comm t.width (position * shape.size), Nat.add_assoc]
    rw [place, loaded'] at loaded
    rw [value, value', Outcome.ok.inj loaded]
  · rw [get?_of_not_contains (by rwa [slabShape]), get?_of_not_contains]
    rw [sameShape, Shape.contains_cons]
    exact fun both => there both.2

/-- What an array holds that was unpacked.  It has the shape that was asked for, and at each index of
this shape the element that is loaded from the byte at its rank.  Its slabs along the first axis are
unpacked in the same way, each from its own first byte; and an array without axes holds the one
element that is loaded from the first byte. -/
theorem unpack_row_major (h : unpack t bytes byteStart shape = .ok a) :
    a.shape = shape ∧
    (∀ index, shape.Contains index →
      ∃ v, load t bytes (byteStart + t.width * shape.rank index) = .ok v ∧
        a.get? index = some v) ∧
    (∀ (length : Nat) (others : Shape), shape = length :: others → ∀ position < length,
      ∃ slab,
        unpack t bytes (byteStart + position * others.size * t.width) others = .ok slab ∧
        slab.shape = others ∧ ∀ index, slab.get? index = a.get? (position :: index)) ∧
    (shape = [] → ∃ v, load t bytes byteStart = .ok v ∧ a.values = [v] ∧ a.get? [] = some v) := by
  refine ⟨(unpack_values_of_unpack_eq_ok h).1, fun index => get?_of_unpack h, ?_, ?_⟩
  · rintro length others rfl position here
    exact exists_slab h here
  · rintro rfl
    obtain ⟨v, loaded, value⟩ := get?_of_unpack h Shape.contains_nil
    refine ⟨v, loaded, ?_, value⟩
    -- There is one index, and so there is one element.
    obtain ⟨sameShape, -⟩ := unpack_values_of_unpack_eq_ok h
    have one : a.values.length = 1 := by rw [a.length_values, sameShape, Shape.size_nil]
    obtain ⟨w, values⟩ := List.length_eq_one_iff.1 one
    rw [get?, sameShape, if_pos Shape.contains_nil, values] at value
    obtain rfl : w = v := Option.some.inj value
    exact values

/-- Two rows of three numbers behind one byte: the first number of the second row is loaded from
behind the first row, and so is the second row.  An array without axes is a single number. -/
theorem unpack_row_major_matrix :
    (∃ a : Tensor (Element .int16),
      unpack .int16 [9, 0, 1, 0, 2, 0, 3, 0, 4, 0, 5, 0xFF, 0x80, 9] 1 [2, 3] = .ok a ∧
      a.values = [⟨1⟩, ⟨2⟩, ⟨3⟩, ⟨4⟩, ⟨5⟩, ⟨0xFF80⟩] ∧
      (load .int16 [9, 0, 1, 0, 2, 0, 3, 0, 4, 0, 5, 0xFF, 0x80, 9] 7 = .ok ⟨4⟩ ∧
        a.get? [1, 0] = some ⟨4⟩) ∧
      ∃ slab, unpack .int16 [9, 0, 1, 0, 2, 0, 3, 0, 4, 0, 5, 0xFF, 0x80, 9] 7 [3] = .ok slab ∧
        slab.values = [⟨4⟩, ⟨5⟩, ⟨0xFF80⟩] ∧
        slab.shape = [3] ∧ ∀ index, slab.get? index = a.get? (1 :: index)) ∧
    ∃ a : Tensor (Element .int16), unpack .int16 [9, 0xFF, 0x80] 1 [] = .ok a ∧
      load .int16 [9, 0xFF, 0x80] 1 = .ok ⟨0xFF80⟩ ∧ a.values = [⟨0xFF80⟩] ∧
        a.get? [] = some ⟨0xFF80⟩ := by
  have matrix : unpack .int16 [9, 0, 1, 0, 2, 0, 3, 0, 4, 0, 5, 0xFF, 0x80, 9] 1 [2, 3] =
      .ok ⟨[2, 3], [⟨1⟩, ⟨2⟩, ⟨3⟩, ⟨4⟩, ⟨5⟩, ⟨0xFF80⟩], by decide, by decide⟩ := by decide
  have row : unpack .int16 [9, 0, 1, 0, 2, 0, 3, 0, 4, 0, 5, 0xFF, 0x80, 9] 7 [3] =
      .ok ⟨[3], [⟨4⟩, ⟨5⟩, ⟨0xFF80⟩], by decide, by decide⟩ := by decide
  have scalar : unpack .int16 [9, 0xFF, 0x80] 1 [] =
      .ok ⟨[], [⟨0xFF80⟩], by decide, by decide⟩ := by decide
  obtain ⟨-, elements, slabs, -⟩ := unpack_row_major matrix
  obtain ⟨-, -, -, single⟩ := unpack_row_major scalar
  -- What the theorem says to exist are these numbers and this row.
  obtain ⟨v, loaded, found⟩ := elements [1, 0] (by decide)
  obtain rfl : v = ⟨4⟩ := (Option.some.inj found).symm
  obtain ⟨slab, there, axes, same⟩ := slabs 2 [3] rfl 1 (by decide)
  obtain rfl := Outcome.ok.inj (row.symm.trans there)
  obtain ⟨w, loaded', values, found'⟩ := single rfl
  obtain rfl : w = ⟨0xFF80⟩ := (Option.some.inj found').symm
  exact ⟨⟨_, matrix, rfl, ⟨loaded, found⟩, _, there, rfl, axes, same⟩, _, scalar, loaded', values,
    found'⟩

end BytePacking.Tensor
