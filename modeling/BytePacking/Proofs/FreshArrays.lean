import BytePacking.Proofs.Endings

/-!
# A new array is an array of zeros that is filled in place

An operation that makes a new array checks the range that it reads, computes the size of the array,
makes it of zeros, and has it filled by the operation in place, which checks both ranges again.  The
size is computed by other sums and products than the ends of the ranges, and in another order.

`new_arrays_are_filled_in_place` says that the two agree all the same.  Where the array can exist,
making it ends as filling zeros in place does, with the same contents or the same error.  Where its
size is no word, making it is refused for the reason for which filling any array is refused.  So
what was checked before is never refused afterwards: the range in the new array never ends behind
it.
-/

set_option autoImplicit false

namespace BytePacking

variable {t : ElementType}

/-! ## From bytes to elements -/

section Unpacking

variable {bytes : List UInt8} {byteStart destStart len : Nat}

/-- Where a new array can exist, unpacking into it is unpacking into zeros. -/
theorem unpack_eq_result_unpackInto
    (room : (destStart + len) * t.width ≤ AddressSpace.allocationLimit) :
    unpack t bytes byteStart destStart len =
      (unpackInto bytes byteStart (List.replicate (destStart + len) (Element.zero t)) destStart
        len).result := by
  have limit := AddressSpace.allocationLimit_lt_wordLimit
  have few := t.le_mul_width (destStart + len)
  have word : destStart + len < AddressSpace.wordLimit := by omega
  have slots : Window.Fits (List.replicate (destStart + len) (Element.zero t)).length destStart
      len := ⟨word, by simp⟩
  rw [unpack_eq, unpackInto_eq, if_pos word, if_pos room, if_pos slots,
    splice_replicate _ (by simp), apply_ite Update.result]
  rfl

/-- An array whose length is no word is refused, whether it is new or not. -/
theorem exists_error_of_unpack_overflow (t : ElementType) (bytes : List UInt8) (byteStart : Nat)
    (large : AddressSpace.wordLimit ≤ destStart + len) :
    ∃ e, unpack t bytes byteStart destStart len = .error e ∧
      ∀ dest : List (Element t), unpackInto bytes byteStart dest destStart len =
        ⟨.error e, dest⟩ := by
  by_cases source : Window.Fits bytes.length byteStart (len * t.width)
  · refine ⟨⟨.elements, .overflow⟩, ?_, ?_⟩
    · simp [unpack_eq, source, Nat.not_lt.2 large]
    · intro dest
      rw [unpackInto_eq, if_pos source, if_neg (Window.not_fits_of_overflow large),
        Window.refusal_of_overflow large]
  · refine ⟨Window.refusal .bytes bytes.length byteStart (len * t.width), ?_, ?_⟩
    · simp [unpack_eq, source]
    · intro dest
      simp [unpackInto_eq, source]

/-- Once the checks have passed and the array is made, filling it succeeds. -/
theorem outcome_unpackInto_fresh {source : Window bytes.length} {total : Nat}
    {fresh : List (Element t)}
    (checked : Window.checkBlocks t.width bytes.length byteStart len = .ok source)
    (size : AddressSpace.add? destStart len = some total)
    (made : (AddressSpace.allocate t.width total (Element.zero t) :
      Outcome RangeError (List (Element t))) = .ok fresh) :
    (unpackInto bytes byteStart fresh destStart len).outcome = .ok () := by
  rw [Window.checkBlocks_eq_check] at checked
  obtain ⟨word, rfl⟩ := AddressSpace.add?_eq_some_iff.1 size
  obtain ⟨-, rfl⟩ := AddressSpace.allocate_eq_ok_iff.1 made
  have slots : Window.Fits (List.replicate (destStart + len) (Element.zero t)).length destStart
      len := ⟨word, by simp⟩
  rw [unpackInto_eq, if_pos (Window.fits_of_check_eq_ok checked), if_pos slots]
  rfl

/-- No new array is too short for what is unpacked into it. -/
theorem unpack_ne_pastEnd (bytes : List UInt8) (byteStart destStart len stop capacity : Nat) :
    unpack t bytes byteStart destStart len ≠ .error ⟨.elements, .pastEnd stop capacity⟩ := by
  intro refused
  rw [unpack_eq] at refused
  split at refused
  · split at refused
    · split at refused <;> simp at refused
    · simp at refused
  · simpa using congrArg RangeError.region (Outcome.error.inj refused)

end Unpacking

/-! ## From elements to bytes -/

section Packing

variable {values : List (Element t)} {arrayStart byteStart len : Nat}

/-- Where a new buffer can exist, packing into it is packing over zeros. -/
theorem pack_eq_result_packInto
    (room : byteStart + len * t.width ≤ AddressSpace.allocationLimit) :
    pack values arrayStart byteStart len =
      (packInto values arrayStart (List.replicate (byteStart + len * t.width) 0) byteStart
        len).result := by
  have limit := AddressSpace.allocationLimit_lt_wordLimit
  have word : byteStart + len * t.width < AddressSpace.wordLimit := by omega
  have bytes : Window.Fits (List.replicate (byteStart + len * t.width) (0 : UInt8)).length
      byteStart (len * t.width) := ⟨word, by simp⟩
  rw [pack_eq, packInto_eq, if_pos word, if_pos room, if_pos bytes, apply_ite Update.result]
  split
  · next array =>
    rw [splice_replicate _ (by rw [length_toBytes_take_drop array.inside]), Update.result_done]
  · rfl

/-- A buffer whose size is no word is refused, whether it is new or not. -/
theorem exists_error_of_pack_overflow (values : List (Element t)) (arrayStart : Nat)
    (large : AddressSpace.wordLimit ≤ byteStart + len * t.width) :
    ∃ e, pack values arrayStart byteStart len = .error e ∧
      ∀ dest, packInto values arrayStart dest byteStart len = ⟨.error e, dest⟩ := by
  by_cases array : Window.Fits values.length arrayStart len
  · refine ⟨⟨.bytes, .overflow⟩, ?_, ?_⟩
    · simp [pack_eq, array, Nat.not_lt.2 large]
    · intro dest
      rw [packInto_eq, if_pos array, if_neg (Window.not_fits_of_overflow large),
        Window.refusal_of_overflow large]
  · refine ⟨Window.refusal .elements values.length arrayStart len, ?_, ?_⟩
    · simp [pack_eq, array]
    · intro dest
      simp [packInto_eq, array]

/-- Once the checks have passed and the buffer is made, filling it succeeds. -/
theorem outcome_packInto_fresh {source : Window values.length} {total : Nat} {fresh : List UInt8}
    (checked : Window.check .elements values.length arrayStart len = .ok source)
    (size : (AddressSpace.mul? len t.width).bind (AddressSpace.add? · byteStart) = some total)
    (made : (AddressSpace.allocate 1 total (0 : UInt8) : Outcome RangeError (List UInt8)) =
      .ok fresh) :
    (packInto values arrayStart fresh byteStart len).outcome = .ok () := by
  obtain ⟨count, product, sum⟩ := Option.bind_eq_some_iff.1 size
  obtain ⟨-, rfl⟩ := AddressSpace.mul?_eq_some_iff.1 product
  obtain ⟨word, rfl⟩ := AddressSpace.add?_eq_some_iff.1 sum
  obtain ⟨-, rfl⟩ := AddressSpace.allocate_eq_ok_iff.1 made
  -- The size was found with the offset as the second summand, and the window has it as the first.
  rw [Nat.add_comm] at word
  have bytes : Window.Fits (List.replicate (len * t.width + byteStart) (0 : UInt8)).length
      byteStart (len * t.width) := ⟨word, by simp [Nat.add_comm]⟩
  rw [packInto_eq, if_pos (Window.fits_of_check_eq_ok checked), if_pos bytes]
  rfl

/-- No new buffer is too short for what is packed into it. -/
theorem pack_ne_pastEnd (values : List (Element t))
    (arrayStart byteStart len stop capacity : Nat) :
    pack values arrayStart byteStart len ≠ .error ⟨.bytes, .pastEnd stop capacity⟩ := by
  intro refused
  rw [pack_eq] at refused
  split at refused
  · split at refused
    · split at refused <;> simp at refused
    · simp at refused
  · simpa using congrArg RangeError.region (Outcome.error.inj refused)

end Packing

/-- Making a new array is filling zeros in place, in both directions.  Where the bytes of the array
are within the limit of what can exist, the one ends as the other does: with the same contents or
with the same error, and always with one of the two.  Where its size is no word, the new array is
refused for the reason for which every array is refused.  The checks that come before the array is
made are enough for filling it, so that no new array is ever too short. -/
theorem new_arrays_are_filled_in_place (t : ElementType) :
    (∀ (bytes : List UInt8) (byteStart destStart len : Nat),
      ((destStart + len) * t.width ≤ AddressSpace.allocationLimit →
        let zeros := List.replicate (destStart + len) (Element.zero t)
        unpack t bytes byteStart destStart len =
            (unpackInto bytes byteStart zeros destStart len).result ∧
          unpack t bytes byteStart destStart len ≠ .trap) ∧
      (AddressSpace.wordLimit ≤ destStart + len →
        ∃ e, unpack t bytes byteStart destStart len = .error e ∧
          ∀ dest : List (Element t), unpackInto bytes byteStart dest destStart len =
            ⟨.error e, dest⟩) ∧
      (∀ (source : Window bytes.length) (total : Nat) (fresh : List (Element t)),
        Window.checkBlocks t.width bytes.length byteStart len = .ok source →
        AddressSpace.add? destStart len = some total →
        (AddressSpace.allocate t.width total (Element.zero t) :
          Outcome RangeError (List (Element t))) = .ok fresh →
        (unpackInto bytes byteStart fresh destStart len).outcome = .ok ()) ∧
      ∀ stop capacity, unpack t bytes byteStart destStart len ≠
        .error ⟨.elements, .pastEnd stop capacity⟩) ∧
    ∀ (values : List (Element t)) (arrayStart byteStart len : Nat),
      (byteStart + len * t.width ≤ AddressSpace.allocationLimit →
        let zeros := List.replicate (byteStart + len * t.width) (0 : UInt8)
        pack values arrayStart byteStart len =
            (packInto values arrayStart zeros byteStart len).result ∧
          pack values arrayStart byteStart len ≠ .trap) ∧
      (AddressSpace.wordLimit ≤ byteStart + len * t.width →
        ∃ e, pack values arrayStart byteStart len = .error e ∧
          ∀ dest, packInto values arrayStart dest byteStart len = ⟨.error e, dest⟩) ∧
      (∀ (source : Window values.length) (total : Nat) (fresh : List UInt8),
        Window.check .elements values.length arrayStart len = .ok source →
        (AddressSpace.mul? len t.width).bind (AddressSpace.add? · byteStart) = some total →
        (AddressSpace.allocate 1 total (0 : UInt8) : Outcome RangeError (List UInt8)) = .ok fresh →
        (packInto values arrayStart fresh byteStart len).outcome = .ok ()) ∧
      ∀ stop capacity, pack values arrayStart byteStart len ≠
        .error ⟨.bytes, .pastEnd stop capacity⟩ := by
  constructor
  · intro bytes byteStart destStart len
    refine ⟨?_, exists_error_of_unpack_overflow t bytes byteStart, ?_,
      unpack_ne_pastEnd bytes byteStart destStart len⟩
    · intro room
      exact ⟨unpack_eq_result_unpackInto room, unpack_ne_trap room⟩
    · intro source total fresh checked size made
      exact outcome_unpackInto_fresh checked size made
  · intro values arrayStart byteStart len
    refine ⟨?_, exists_error_of_pack_overflow values arrayStart, ?_,
      pack_ne_pastEnd values arrayStart byteStart len⟩
    · intro room
      exact ⟨pack_eq_result_packInto room, pack_ne_trap room⟩
    · intro source total fresh checked size made
      exact outcome_packInto_fresh checked size made

/-- Two numbers of sixteen bits behind a zero, and a buffer that does not hold the second of them.
An offset whose sum is no word is refused for every array. -/
theorem new_arrays_are_filled_in_place_int16 :
    (unpack .int16 [7, 1, 2, 0xFF, 0x80] 1 1 2 = .ok [⟨0⟩, ⟨0x0102⟩, ⟨0xFF80⟩] ∧
      (unpackInto [7, 1, 2, 0xFF, 0x80] 1 ([⟨0⟩, ⟨0⟩, ⟨0⟩] : List (Element .int16)) 1 2).result =
        .ok [⟨0⟩, ⟨0x0102⟩, ⟨0xFF80⟩]) ∧
    (unpack .int16 [7, 1, 2, 0xFF] 1 1 2 = .error ⟨.bytes, .pastEnd 5 4⟩ ∧
      (unpackInto [7, 1, 2, 0xFF] 1 ([⟨0⟩, ⟨0⟩, ⟨0⟩] : List (Element .int16)) 1 2).result =
        .error ⟨.bytes, .pastEnd 5 4⟩) ∧
    (pack (t := .int16) [⟨5⟩, ⟨0xFF80⟩] 1 3 1 = .ok [0, 0, 0, 0xFF, 0x80] ∧
      (packInto (t := .int16) [⟨5⟩, ⟨0xFF80⟩] 1 [0, 0, 0, 0, 0] 3 1).result =
        .ok [0, 0, 0, 0xFF, 0x80]) ∧
    ∃ e, pack (t := .int16) [⟨5⟩, ⟨0xFF80⟩] 1 18446744073709551614 1 = .error e ∧
      ∀ dest, packInto (t := .int16) [⟨5⟩, ⟨0xFF80⟩] 1 dest 18446744073709551614 1 =
        ⟨.error e, dest⟩ := by
  obtain ⟨unpacking, packing⟩ := new_arrays_are_filled_in_place .int16
  have whole : unpack .int16 [7, 1, 2, 0xFF, 0x80] 1 1 2 = .ok [⟨0⟩, ⟨0x0102⟩, ⟨0xFF80⟩] := by
    decide
  have short : unpack .int16 [7, 1, 2, 0xFF] 1 1 2 = .error ⟨.bytes, .pastEnd 5 4⟩ := by decide
  have packed : pack (t := .int16) [⟨5⟩, ⟨0xFF80⟩] 1 3 1 = .ok [0, 0, 0, 0xFF, 0x80] := by decide
  -- In place the same is found, since the operations agree on an array of zeros.
  have whole' := ((unpacking [7, 1, 2, 0xFF, 0x80] 1 1 2).1 (by decide)).1
  have short' := ((unpacking [7, 1, 2, 0xFF] 1 1 2).1 (by decide)).1
  have packed' := ((packing [⟨5⟩, ⟨0xFF80⟩] 1 3 1).1 (by decide)).1
  exact ⟨⟨whole, whole'.symm.trans whole⟩, ⟨short, short'.symm.trans short⟩,
    ⟨packed, packed'.symm.trans packed⟩, (packing _ 1 18446744073709551614 1).2.1 (by decide)⟩

end BytePacking
