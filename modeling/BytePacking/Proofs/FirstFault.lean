import BytePacking.Proofs.Endings

/-!
# Which fault an operation in place reports

An operation in place has four ways to fail, two for each of its ranges: that the end of the range
is not a machine word, and that it is beyond the capacity.  Several of them can hold of one call.
`outcome_in_place_eq_first_fault` says which of them is reported: those of the range that is read
come before those of the range that is written, and an end that is no word comes before one that is
too large.  Sums and products are exact, so that no range is accepted because a number in it was
reduced, and a range of length nought is accepted up to the very end of its region and not beyond.

A call that does not succeed leaves its destination as it was, whatever the fault.
-/

set_option autoImplicit false

namespace BytePacking

/-- Whether a range fits is found by two questions about its exact end. -/
theorem Window.ite_fits {β : Type} (region : Region) (capacity start count : Nat)
    (accept : β) (refuse : RangeError → β) :
    (if Fits capacity start count then accept else refuse (refusal region capacity start count)) =
      if AddressSpace.wordLimit ≤ start + count then refuse ⟨region, .overflow⟩
      else if capacity < start + count then refuse ⟨region, .pastEnd (start + count) capacity⟩
      else accept := by
  by_cases large : AddressSpace.wordLimit ≤ start + count
  · rw [if_neg (not_fits_of_overflow large), if_pos large, refusal_of_overflow large]
  · rw [if_neg large]
    by_cases beyond : capacity < start + count
    · have unfit : ¬ Fits capacity start count := by
        intro fits
        exact absurd fits.inside (Nat.not_le.2 beyond)
      rw [if_neg unfit, if_pos beyond, refusal, if_neg large]
    · have fits : Fits capacity start count := ⟨Nat.lt_of_not_le large, Nat.le_of_not_lt beyond⟩
      rw [if_pos fits, if_neg beyond]

variable {t : ElementType}

/-- Unpacking in place asks about the bytes and then about the slots. -/
theorem outcome_unpackInto (bytes : List UInt8) (byteStart : Nat) (dest : List (Element t))
    (destStart len : Nat) :
    (unpackInto bytes byteStart dest destStart len).outcome =
      if AddressSpace.wordLimit ≤ byteStart + len * t.width then .error ⟨.bytes, .overflow⟩
      else if bytes.length < byteStart + len * t.width then
        .error ⟨.bytes, .pastEnd (byteStart + len * t.width) bytes.length⟩
      else if AddressSpace.wordLimit ≤ destStart + len then .error ⟨.elements, .overflow⟩
      else if dest.length < destStart + len then
        .error ⟨.elements, .pastEnd (destStart + len) dest.length⟩
      else .ok () := by
  rw [← Window.ite_fits .elements dest.length destStart len, ← Window.ite_fits .bytes,
    unpackInto_eq]
  split
  · split <;> rfl
  · rfl

/-- Packing in place asks about the elements and then about the bytes. -/
theorem outcome_packInto (values : List (Element t)) (arrayStart : Nat) (dest : List UInt8)
    (byteStart len : Nat) :
    (packInto values arrayStart dest byteStart len).outcome =
      if AddressSpace.wordLimit ≤ arrayStart + len then .error ⟨.elements, .overflow⟩
      else if values.length < arrayStart + len then
        .error ⟨.elements, .pastEnd (arrayStart + len) values.length⟩
      else if AddressSpace.wordLimit ≤ byteStart + len * t.width then .error ⟨.bytes, .overflow⟩
      else if dest.length < byteStart + len * t.width then
        .error ⟨.bytes, .pastEnd (byteStart + len * t.width) dest.length⟩
      else .ok () := by
  rw [← Window.ite_fits .bytes dest.length byteStart (len * t.width), ← Window.ite_fits .elements,
    packInto_eq]
  split
  · split <;> rfl
  · rfl

/-- Reading in place that fails leaves the array as it was. -/
theorem dest_unpackInto_of_ne_ok {bytes : List UInt8} {byteStart : Nat} {dest : List (Element t)}
    {destStart len : Nat}
    (fails : (unpackInto bytes byteStart dest destStart len).outcome ≠ .ok ()) :
    (unpackInto bytes byteStart dest destStart len).dest = dest := by
  rcases unpackInto_done_or_error bytes byteStart dest destStart len with ok | ⟨e, refused⟩
  · exact absurd ok fails
  · rw [refused]

/-- Writing in place that fails leaves the bytes as they were. -/
theorem dest_packInto_of_ne_ok {values : List (Element t)} {arrayStart : Nat} {dest : List UInt8}
    {byteStart len : Nat}
    (fails : (packInto values arrayStart dest byteStart len).outcome ≠ .ok ()) :
    (packInto values arrayStart dest byteStart len).dest = dest := by
  rcases packInto_done_or_error values arrayStart dest byteStart len with ok | ⟨e, refused⟩
  · exact absurd ok fails
  · rw [refused]

/-- Both operations in place end as the first of their faults says, in an order of their own, and
succeed where there is none.  Where they do not succeed the destination is what it was. -/
theorem outcome_in_place_eq_first_fault (t : ElementType) :
    (∀ (bytes : List UInt8) (byteStart : Nat) (dest : List (Element t)) (destStart len : Nat),
      (unpackInto bytes byteStart dest destStart len).outcome =
        (if AddressSpace.wordLimit ≤ byteStart + len * t.width then .error ⟨.bytes, .overflow⟩
        else if bytes.length < byteStart + len * t.width then
          .error ⟨.bytes, .pastEnd (byteStart + len * t.width) bytes.length⟩
        else if AddressSpace.wordLimit ≤ destStart + len then .error ⟨.elements, .overflow⟩
        else if dest.length < destStart + len then
          .error ⟨.elements, .pastEnd (destStart + len) dest.length⟩
        else .ok ()) ∧
      ((unpackInto bytes byteStart dest destStart len).outcome ≠ .ok () →
        (unpackInto bytes byteStart dest destStart len).dest = dest)) ∧
    ∀ (values : List (Element t)) (arrayStart : Nat) (dest : List UInt8) (byteStart len : Nat),
      (packInto values arrayStart dest byteStart len).outcome =
        (if AddressSpace.wordLimit ≤ arrayStart + len then .error ⟨.elements, .overflow⟩
        else if values.length < arrayStart + len then
          .error ⟨.elements, .pastEnd (arrayStart + len) values.length⟩
        else if AddressSpace.wordLimit ≤ byteStart + len * t.width then .error ⟨.bytes, .overflow⟩
        else if dest.length < byteStart + len * t.width then
          .error ⟨.bytes, .pastEnd (byteStart + len * t.width) dest.length⟩
        else .ok ()) ∧
      ((packInto values arrayStart dest byteStart len).outcome ≠ .ok () →
        (packInto values arrayStart dest byteStart len).dest = dest) := by
  constructor
  · intro bytes byteStart dest destStart len
    exact ⟨outcome_unpackInto bytes byteStart dest destStart len, dest_unpackInto_of_ne_ok⟩
  · intro values arrayStart dest byteStart len
    exact ⟨outcome_packInto values arrayStart dest byteStart len, dest_packInto_of_ne_ok⟩

/-- Two elements of sixteen bits from position one on fit neither in an array of two nor in a buffer
of four bytes; each direction reports the side that it reads.  A length whose bytes are exactly as
many as there are words is not taken for nought. -/
theorem first_fault_of_two :
    (unpackInto (t := .uint16) [1, 2, 3, 4] 1 [⟨7⟩, ⟨8⟩] 1 2 =
        ⟨.error ⟨.bytes, .pastEnd 5 4⟩, [⟨7⟩, ⟨8⟩]⟩) ∧
      (packInto (t := .uint16) [⟨7⟩, ⟨8⟩] 1 [1, 2, 3, 4] 1 2 =
        ⟨.error ⟨.elements, .pastEnd 3 2⟩, [1, 2, 3, 4]⟩) ∧
      (unpackInto (t := .uint16) [1, 2, 3, 4] 0 [⟨7⟩, ⟨8⟩] 0 9223372036854775808 =
        ⟨.error ⟨.bytes, .overflow⟩, [⟨7⟩, ⟨8⟩]⟩) := by
  obtain ⟨unpacking, packing⟩ := outcome_in_place_eq_first_fault .uint16
  have build {δ : Type} (u : Update RangeError δ) (dest : δ) (e : RangeError)
      (outcome : u.outcome = .error e) (kept : u.outcome ≠ .ok () → u.dest = dest) :
      u = ⟨.error e, dest⟩ := by
    have same : u.dest = dest := kept (by rw [outcome]; nofun)
    rw [← outcome, ← same]
  obtain ⟨bytesFirst, keepsSlots⟩ := unpacking [1, 2, 3, 4] 1 [⟨7⟩, ⟨8⟩] 1 2
  obtain ⟨elementsFirst, keepsBytes⟩ := packing [⟨7⟩, ⟨8⟩] 1 [1, 2, 3, 4] 1 2
  obtain ⟨tooLong, keepsAll⟩ := unpacking [1, 2, 3, 4] 0 [⟨7⟩, ⟨8⟩] 0 9223372036854775808
  exact ⟨build _ _ _ bytesFirst keepsSlots, build _ _ _ elementsFirst keepsBytes,
    build _ _ _ tooLong keepsAll⟩

end BytePacking
