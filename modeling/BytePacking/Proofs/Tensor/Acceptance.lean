import BytePacking.Proofs.FirstFault
import BytePacking.Proofs.Tensor.Endings

/-!
# Which shapes are accepted, and what is reported of the others

Unpacking an array asks three questions about its shape, and each of them takes the size of the shape
in another sense: the products of the first axes must be words, all elements must be there as bytes,
and the axes that are not empty must not be too long for memory.  Together they come to one
condition that does not depend on the order of the axes (`outcome_unpack`): the extent of the shape
is within the limit, and the bytes are there.

What is reported of a shape that is refused does depend on the order, since the first question is
asked from the first axis to the last.  The last question is of interest for empty arrays only.
-/

set_option autoImplicit false

namespace BytePacking.Tensor

variable {t : ElementType} {bytes : List UInt8} {byteStart : Nat} {shape : Shape}

/-- First axes that are too long are found before the bytes are looked at. -/
theorem unpack_of_overflow
    (overflows : ∃ front, front <+: shape ∧ AddressSpace.wordLimit ≤ Shape.size front)
    (bytes : List UInt8) (byteStart : Nat) :
    unpack t bytes byteStart shape = .error ⟨.elements, .overflow⟩ := by
  rw [unpack, Shape.count?_eq_none_iff.2 overflows, Outcome.ofOption_none, Outcome.error_bind]

/-- Where the number of elements is computed, the bytes come first and then the extent. -/
theorem shape_unpack (held : bytes.length ≤ AddressSpace.allocationLimit)
    (words : ∀ front, front <+: shape → Shape.size front < AddressSpace.wordLimit) :
    Tensor.shape <$> unpack t bytes byteStart shape =
      if AddressSpace.wordLimit ≤ byteStart + shape.size * t.width then
        .error ⟨.bytes, .overflow⟩
      else if bytes.length < byteStart + shape.size * t.width then
        .error ⟨.bytes, .pastEnd (byteStart + shape.size * t.width) bytes.length⟩
      else if AddressSpace.allocationLimit < shape.extent then .error ⟨.elements, .overflow⟩
      else .ok shape := by
  rw [← Window.ite_fits .bytes, unpack, Shape.count?_eq_some_size words, Outcome.ofOption_some,
    Outcome.ok_bind, unpack_zero_eq held]
  split
  · have count := Element.length_map_ofBlock_cut (t := t) shape.size (bytes.drop byteStart)
    rw [Outcome.ok_bind]
    by_cases large : AddressSpace.allocationLimit < shape.extent
    · have refused : ¬ shape.Allocatable := Nat.not_le.2 large
      rw [if_pos large, ofList?, dif_neg fun h => refused h.2]
      rfl
    · have allocatable : shape.Allocatable := Nat.le_of_not_lt large
      rw [if_neg large, ofList?, dif_pos ⟨count, allocatable⟩]
      rfl
  · rfl

/-- An array is unpacked exactly where its shape can be held in memory and its bytes are there. -/
theorem exists_unpack_eq_ok_iff (held : bytes.length ≤ AddressSpace.allocationLimit) :
    (∃ a, unpack t bytes byteStart shape = .ok a) ↔
      shape.Allocatable ∧ byteStart + shape.size * t.width ≤ bytes.length := by
  have limit := AddressSpace.allocationLimit_lt_wordLimit
  constructor
  · rintro ⟨a, ok⟩
    obtain ⟨source, -, rfl, -⟩ := fits_of_unpack_eq_ok ok
    exact ⟨a.allocatable, source.inside⟩
  · rintro ⟨allocatable, inside⟩
    have source : Window.Fits bytes.length byteStart (shape.size * t.width) := ⟨by omega, inside⟩
    obtain ⟨a, ok, -⟩ := exists_unpack_eq_ok allocatable source (by omega)
    exact ⟨a, ok⟩

/-- Whether an array is unpacked does not depend on the order of its axes. -/
theorem exists_unpack_eq_ok_iff_of_perm (held : bytes.length ≤ AddressSpace.allocationLimit)
    {other : Shape} (reordered : other.Perm shape) :
    (∃ a, unpack t bytes byteStart other = .ok a) ↔
      ∃ a, unpack t bytes byteStart shape = .ok a := by
  rw [exists_unpack_eq_ok_iff held, exists_unpack_eq_ok_iff held, Shape.Allocatable,
    Shape.extent_eq_of_perm reordered, Shape.size_eq_of_perm reordered]
  rfl

/-- Only an empty array can be too long for memory when its bytes are there. -/
theorem size_eq_zero_of_large (held : bytes.length ≤ AddressSpace.allocationLimit)
    (inside : byteStart + shape.size * t.width ≤ bytes.length)
    (large : AddressSpace.allocationLimit < shape.extent) : shape.size = 0 := by
  apply Classical.byContradiction
  intro nonempty
  have few : shape.size ≤ shape.size * t.width := t.le_mul_width _
  rw [Shape.extent_eq_size nonempty] at large
  omega

/-- How the unpacking of an array ends, for every shape and provided that the bytes can exist.  If
some of the first axes have a product that is not a word, that is the error, whatever the bytes.
Otherwise a range of bytes that does not fit comes first, and then an extent beyond the limit, which
is met by empty arrays only.  So whether a shape is accepted depends on its size and its extent
alone and not on the order of its axes; but whether the number of its elements is computed depends
on their order. -/
theorem outcome_unpack (t : ElementType) (byteStart : Nat) (shape : Shape) :
    ((∃ front, front <+: shape ∧ AddressSpace.wordLimit ≤ Shape.size front) →
      ∀ bytes, unpack t bytes byteStart shape = .error ⟨.elements, .overflow⟩) ∧
    (∀ bytes : List UInt8, bytes.length ≤ AddressSpace.allocationLimit →
      ((∃ a, unpack t bytes byteStart shape = .ok a) ↔
        shape.extent ≤ AddressSpace.allocationLimit ∧
          byteStart + shape.size * t.width ≤ bytes.length) ∧
      (∀ other : Shape, other.Perm shape →
        ((∃ a, unpack t bytes byteStart other = .ok a) ↔
          ∃ a, unpack t bytes byteStart shape = .ok a)) ∧
      ((∀ front, front <+: shape → Shape.size front < AddressSpace.wordLimit) →
        Tensor.shape <$> unpack t bytes byteStart shape =
          if AddressSpace.wordLimit ≤ byteStart + shape.size * t.width then
            .error ⟨.bytes, .overflow⟩
          else if bytes.length < byteStart + shape.size * t.width then
            .error ⟨.bytes, .pastEnd (byteStart + shape.size * t.width) bytes.length⟩
          else if AddressSpace.allocationLimit < shape.extent then .error ⟨.elements, .overflow⟩
          else .ok shape) ∧
      (byteStart + shape.size * t.width ≤ bytes.length →
        AddressSpace.allocationLimit < shape.extent → shape.size = 0)) ∧
    ∃ ordered reordered : Shape, reordered.Perm ordered ∧
      ordered.count? = none ∧ reordered.count? = some 0 := by
  refine ⟨?_, ?_, ?_⟩
  · intro overflows bytes
    exact unpack_of_overflow overflows bytes byteStart
  · intro bytes held
    refine ⟨exists_unpack_eq_ok_iff held, ?_, shape_unpack held, size_eq_zero_of_large held⟩
    intro other reordered
    exact exists_unpack_eq_ok_iff_of_perm held reordered
  · exact ⟨[18446744073709551615, 2, 0], [0, 18446744073709551615, 2], by decide, by decide, by decide⟩

/-- No elements, from axes one of which is too long for memory: at the front it is an overflow at
once, and behind the empty axis the bytes are looked at first. -/
theorem outcome_unpack_empty :
    unpack .uint8 [1] 5 [18446744073709551615, 2, 0] = .error ⟨.elements, .overflow⟩ ∧
      Tensor.shape <$> unpack .uint8 [1] 5 [0, 18446744073709551615, 2] =
        .error ⟨.bytes, .pastEnd 5 1⟩ ∧
      Tensor.shape <$> unpack .uint8 [1] 1 [0, 18446744073709551615, 2] =
        .error ⟨.elements, .overflow⟩ ∧
      ∃ a, unpack .uint8 [1] 1 [3, 0] = .ok a := by
  have words : ∀ front, front <+: [0, 18446744073709551615, 2] →
      Shape.size front < AddressSpace.wordLimit := by
    intro front isFront
    apply Nat.lt_of_not_le
    intro large
    exact absurd (Shape.count?_eq_none_iff.2 ⟨front, isFront, large⟩) (by decide)
  obtain ⟨overflows, -⟩ := outcome_unpack .uint8 5 [18446744073709551615, 2, 0]
  obtain ⟨-, beyond, -⟩ := outcome_unpack .uint8 5 [0, 18446744073709551615, 2]
  obtain ⟨-, inside, -⟩ := outcome_unpack .uint8 1 [0, 18446744073709551615, 2]
  obtain ⟨-, empty, -⟩ := outcome_unpack .uint8 1 [3, 0]
  refine ⟨overflows ⟨[18446744073709551615, 2], by decide, by decide⟩ [1], ?_, ?_, ?_⟩
  · exact (beyond [1] (by decide)).2.2.1 words
  · exact (inside [1] (by decide)).2.2.1 words
  · exact (empty [1] (by decide)).1.2 (by decide)

end BytePacking.Tensor
