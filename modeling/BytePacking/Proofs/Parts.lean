import BytePacking.Proofs.Endings

/-!
# A conversion in parts

A conversion in place can be divided behind any of its elements.  Converting `m + n` elements
succeeds exactly where converting the first `m` of them succeeds and then, on what that leaves and
from behind them on, converting the other `n`; and both ways leave the same destination.  An empty
part is nothing special, even behind the last item of a list.

`Update.Divisible` is this law for any operation on a range of items.  From it follows by induction
that an operation on at least one item is the same as one call for each item, made in turn
(`Update.Divisible.eq_done_iff_inTurn`).  So the test of a whole range is as good as a test for
every element, and a range that is refused contains an element that would be.

`conversions_are_divisible` says so for packing and unpacking.
-/

set_option autoImplicit false

namespace BytePacking

namespace Update

variable {ε δ : Type}

/-! ## Updates in turn -/

/-- Goes on with what a successful update leaves.  One that does not succeed ends the sequence. -/
def andThen (first : Update ε δ) (next : δ → Update ε δ) : Update ε δ :=
  match first.outcome with
  | .ok () => next first.dest
  | .error e => ⟨.error e, first.dest⟩
  | .trap => ⟨.trap, first.dest⟩

/-- Makes the updates number 0 to `count - 1` of a destination, one after the other. -/
def inTurn (update : Nat → δ → Update ε δ) : (count : Nat) → δ → Update ε δ
  | 0, dest => done dest
  | count + 1, dest => (inTurn update count dest).andThen (update count)

/-- After a finished change the next one goes on with what that has left. -/
@[simp] theorem andThen_done (dest : δ) (next : δ → Update ε δ) :
    (done dest).andThen next = next dest := rfl

/-- Two changes are finished where both of them are. -/
theorem andThen_eq_done_iff {first : Update ε δ} {next : δ → Update ε δ} {new : δ} :
    first.andThen next = done new ↔ ∃ mid, first = done mid ∧ next mid = done new := by
  obtain ⟨outcome, dest⟩ := first
  cases outcome <;> simp [andThen, done]

/-- An operation on `count` items from the `first` on is divisible if it may be done in two parts,
and only succeeds where both of them do. -/
def Divisible (operation : (first count : Nat) → δ → Update ε δ) : Prop :=
  ∀ first m n dest new, operation first (m + n) dest = done new ↔
    ∃ mid, operation first m dest = done mid ∧ operation (first + m) n mid = done new

/-- What can be divided anywhere can be done item by item, if there is an item.  For no items at all
the operation may yet be refused. -/
theorem Divisible.eq_done_iff_inTurn {operation : (first count : Nat) → δ → Update ε δ}
    (h : Divisible operation) {count : Nat} (pos : 0 < count) (dest new : δ) :
    operation 0 count dest = done new ↔
      inTurn (fun i => operation i 1) count dest = done new := by
  obtain ⟨others, rfl⟩ : ∃ k, count = k + 1 := ⟨count - 1, by omega⟩
  clear pos
  induction others generalizing new with
  | zero => simp [inTurn]
  | succ others ih =>
    rw [h, inTurn, andThen_eq_done_iff]
    simp only [ih, Nat.zero_add]

end Update

variable {t : ElementType}

/-! ## From bytes to elements -/

section Unpacking

variable {bytes : List UInt8} {byteStart destStart len : Nat} {dest filled : List (Element t)}

/-- Elements are unpacked in two parts as they are at once. -/
theorem unpackInto_add_eq_done_iff {m n : Nat} :
    unpackInto bytes byteStart dest destStart (m + n) = .done filled ↔
      ∃ mid, unpackInto bytes byteStart dest destStart m = .done mid ∧
        unpackInto bytes (byteStart + m * t.width) mid (destStart + m) n = .done filled := by
  let front := (Blocks.cut t.width m (bytes.drop byteStart)).map (Element.ofBlock t)
  have count : front.length = m := Element.length_map_ofBlock_cut ..
  have room (slots : Window.Fits dest.length destStart m) :
      destStart + front.length ≤ dest.length := by
    rw [count]
    exact slots.inside
  simp only [unpackInto_eq_done_iff, Nat.add_mul, Window.fits_add, Blocks.cut_add, List.map_append,
    List.drop_drop]
  constructor
  · rintro ⟨⟨source, source'⟩, ⟨slots, slots'⟩, rfl⟩
    refine ⟨_, ⟨source, slots, rfl⟩, source', ?_, ?_⟩
    · rwa [length_splice (room slots)]
    · rw [splice_append (room slots), count]
  · rintro ⟨_, ⟨source, slots, rfl⟩, source', slots', rfl⟩
    rw [length_splice (room slots)] at slots'
    refine ⟨⟨source, source'⟩, ⟨slots, slots'⟩, ?_⟩
    rw [splice_append (room slots), count]

/-- Reading in place can be divided anywhere. -/
theorem divisible_unpackInto (t : ElementType) (bytes : List UInt8) (byteStart destStart : Nat) :
    Update.Divisible fun first count (dest : List (Element t)) =>
      unpackInto bytes (byteStart + first * t.width) dest (destStart + first) count := by
  intro first m n dest filled
  rw [unpackInto_add_eq_done_iff]
  simp only [Nat.add_mul, Nat.add_assoc]

/-- Unpacking at least one element is unpacking each of them in turn. -/
theorem unpackInto_eq_done_iff_inTurn (pos : 0 < len) :
    unpackInto bytes byteStart dest destStart len = .done filled ↔
      Update.inTurn (fun i mid => unpackInto bytes (byteStart + i * t.width) mid (destStart + i) 1)
        len dest = .done filled := by
  simpa using
    (divisible_unpackInto t bytes byteStart destStart).eq_done_iff_inTurn pos dest filled

/-- The elements of a range that is unpacked start at machine words. -/
theorem starts_of_unpackInto_eq_done {i : Nat}
    (h : unpackInto bytes byteStart dest destStart len = .done filled) (hi : i ≤ len) :
    byteStart + i * t.width < AddressSpace.wordLimit ∧ destStart + i < AddressSpace.wordLimit := by
  obtain ⟨source, slots, -⟩ := fits_of_unpackInto_eq_done h
  have before : i * t.width ≤ len * t.width := Nat.mul_le_mul_right _ hi
  have := source.word
  have := slots.word
  omega

end Unpacking

/-! ## From elements to bytes -/

section Packing

variable {values : List (Element t)} {arrayStart byteStart len : Nat} {buffer packed : List UInt8}

/-- Elements are packed in two parts as they are at once. -/
theorem packInto_add_eq_done_iff {m n : Nat} :
    packInto values arrayStart buffer byteStart (m + n) = .done packed ↔
      ∃ mid, packInto values arrayStart buffer byteStart m = .done mid ∧
        packInto values (arrayStart + m) mid (byteStart + m * t.width) n = .done packed := by
  let front := ((values.drop arrayStart).take m).flatMap Element.toBytes
  have count (array : Window.Fits values.length arrayStart m) : front.length = m * t.width :=
    length_toBytes_take_drop array.inside
  have room (array : Window.Fits values.length arrayStart m)
      (bytes : Window.Fits buffer.length byteStart (m * t.width)) :
      byteStart + front.length ≤ buffer.length := by
    rw [count array]
    exact bytes.inside
  simp only [packInto_eq_done_iff, Nat.add_mul, Window.fits_add, List.take_add, List.flatMap_append,
    List.drop_drop]
  constructor
  · rintro ⟨⟨array, array'⟩, ⟨bytes, bytes'⟩, rfl⟩
    refine ⟨_, ⟨array, bytes, rfl⟩, array', ?_, ?_⟩
    · rwa [length_splice (room array bytes)]
    · rw [splice_append (room array bytes), count array]
  · rintro ⟨_, ⟨array, bytes, rfl⟩, array', bytes', rfl⟩
    rw [length_splice (room array bytes)] at bytes'
    refine ⟨⟨array, array'⟩, ⟨bytes, bytes'⟩, ?_⟩
    rw [splice_append (room array bytes), count array]

/-- Writing in place can be divided anywhere. -/
theorem divisible_packInto (values : List (Element t)) (arrayStart byteStart : Nat) :
    Update.Divisible fun first count buffer =>
      packInto values (arrayStart + first) buffer (byteStart + first * t.width) count := by
  intro first m n buffer packed
  rw [packInto_add_eq_done_iff]
  simp only [Nat.add_mul, Nat.add_assoc]

/-- Packing at least one element is packing each of them in turn. -/
theorem packInto_eq_done_iff_inTurn (pos : 0 < len) :
    packInto values arrayStart buffer byteStart len = .done packed ↔
      Update.inTurn (fun i mid => packInto values (arrayStart + i) mid (byteStart + i * t.width) 1)
        len buffer = .done packed := by
  simpa using
    (divisible_packInto values arrayStart byteStart).eq_done_iff_inTurn pos buffer packed

/-- The elements of a range that is packed start at machine words. -/
theorem starts_of_packInto_eq_done {i : Nat}
    (h : packInto values arrayStart buffer byteStart len = .done packed) (hi : i ≤ len) :
    arrayStart + i < AddressSpace.wordLimit ∧ byteStart + i * t.width < AddressSpace.wordLimit := by
  obtain ⟨array, bytes, -⟩ := fits_of_packInto_eq_done h
  have before : i * t.width ≤ len * t.width := Nat.mul_le_mul_right _ hi
  have := array.word
  have := bytes.word
  omega

/-- The bytes of two lists, one behind the other, are those of the one list that they make. -/
theorem exists_packAll_append {xs ys : List (Element t)}
    (held : (xs ++ ys).length * t.width ≤ AddressSpace.allocationLimit) :
    ∃ front back : List UInt8, (packAll xs : Outcome RangeError (List UInt8)) = .ok front ∧
      (packAll ys : Outcome RangeError (List UInt8)) = .ok back ∧
      (packAll (xs ++ ys) : Outcome RangeError (List UInt8)) = .ok (front ++ back) := by
  have all := packAll_eq_ok (ε := RangeError) held
  rw [List.length_append, Nat.add_mul] at held
  refine ⟨_, _, packAll_eq_ok (by omega), packAll_eq_ok (by omega), ?_⟩
  rw [all, List.flatMap_append]

end Packing

/-- Unpacking and packing in place may be divided behind any element: both parts succeed, the second
from a start that is a machine word and on what the first has left, exactly where the whole
succeeds, and what they leave is what the whole leaves.  So may packing all of a list that can exist.
A conversion of at least one element is one call for each of them, made in turn. -/
theorem conversions_are_divisible (t : ElementType) :
    (∀ (bytes : List UInt8) (byteStart : Nat) (dest : List (Element t)) (destStart m n : Nat)
      (filled : List (Element t)),
      unpackInto bytes byteStart dest destStart (m + n) = .done filled ↔
        ∃ mid, unpackInto bytes byteStart dest destStart m = .done mid ∧
          (byteStart + m * t.width < AddressSpace.wordLimit ∧
            destStart + m < AddressSpace.wordLimit) ∧
          unpackInto bytes (byteStart + m * t.width) mid (destStart + m) n = .done filled) ∧
    (∀ (values : List (Element t)) (arrayStart : Nat) (buffer : List UInt8) (byteStart m n : Nat)
      (packed : List UInt8),
      packInto values arrayStart buffer byteStart (m + n) = .done packed ↔
        ∃ mid, packInto values arrayStart buffer byteStart m = .done mid ∧
          (arrayStart + m < AddressSpace.wordLimit ∧
            byteStart + m * t.width < AddressSpace.wordLimit) ∧
          packInto values (arrayStart + m) mid (byteStart + m * t.width) n = .done packed) ∧
    (∀ xs ys : List (Element t), (xs ++ ys).length * t.width ≤ AddressSpace.allocationLimit →
      ∃ front back : List UInt8, (packAll xs : Outcome RangeError (List UInt8)) = .ok front ∧
        (packAll ys : Outcome RangeError (List UInt8)) = .ok back ∧
        (packAll (xs ++ ys) : Outcome RangeError (List UInt8)) = .ok (front ++ back)) ∧
    (∀ (bytes : List UInt8) (byteStart : Nat) (dest : List (Element t)) (destStart len : Nat)
      (filled : List (Element t)), 0 < len →
      (unpackInto bytes byteStart dest destStart len = .done filled ↔
        (∀ i < len, byteStart + i * t.width < AddressSpace.wordLimit ∧
          destStart + i < AddressSpace.wordLimit) ∧
        Update.inTurn (fun i mid =>
          unpackInto bytes (byteStart + i * t.width) mid (destStart + i) 1) len dest =
            .done filled)) ∧
    ∀ (values : List (Element t)) (arrayStart : Nat) (buffer : List UInt8) (byteStart len : Nat)
      (packed : List UInt8), 0 < len →
      (packInto values arrayStart buffer byteStart len = .done packed ↔
        (∀ i < len, arrayStart + i < AddressSpace.wordLimit ∧
          byteStart + i * t.width < AddressSpace.wordLimit) ∧
        Update.inTurn (fun i mid =>
          packInto values (arrayStart + i) mid (byteStart + i * t.width) 1) len buffer =
            .done packed) := by
  refine ⟨?_, ?_, fun xs ys => exists_packAll_append, ?_, ?_⟩
  · intro bytes byteStart dest destStart m n filled
    rw [unpackInto_add_eq_done_iff]
    refine exists_congr fun mid => and_congr_right fun first => ?_
    rw [and_iff_right (starts_of_unpackInto_eq_done first (Nat.le_refl m))]
  · intro values arrayStart buffer byteStart m n packed
    rw [packInto_add_eq_done_iff]
    refine exists_congr fun mid => and_congr_right fun first => ?_
    rw [and_iff_right (starts_of_packInto_eq_done first (Nat.le_refl m))]
  · intro bytes byteStart dest destStart len filled pos
    rw [← unpackInto_eq_done_iff_inTurn pos]
    refine (and_iff_right_of_imp fun h i hi => ?_).symm
    exact starts_of_unpackInto_eq_done h (Nat.le_of_lt hi)
  · intro values arrayStart buffer byteStart len packed pos
    rw [← packInto_eq_done_iff_inTurn pos]
    refine (and_iff_right_of_imp fun h i hi => ?_).symm
    exact starts_of_packInto_eq_done h (Nat.le_of_lt hi)

/-- Three numbers of sixteen bits, the first of them unpacked before the others and each of them
packed alone.  The list of none is a part of every list. -/
theorem conversions_are_divisible_int16 :
    (∃ mid, unpackInto (t := .int16) [9, 1, 2, 3, 4, 5, 6] 1 [⟨7⟩, ⟨7⟩, ⟨7⟩, ⟨7⟩] 1 1 = .done mid ∧
      (1 + 1 * 2 < AddressSpace.wordLimit ∧ 1 + 1 < AddressSpace.wordLimit) ∧
      unpackInto [9, 1, 2, 3, 4, 5, 6] 3 mid 2 2 =
        .done [⟨7⟩, ⟨0x0102⟩, ⟨0x0304⟩, ⟨0x0506⟩]) ∧
    Update.inTurn (fun i mid => packInto (t := .int16) [⟨0x0102⟩, ⟨0xFF80⟩] (0 + i) mid (1 + i * 2)
      1) 2 [7, 7, 7, 7, 7] = .done [7, 1, 2, 0xFF, 0x80] ∧
    ∃ front back : List UInt8,
      (packAll (t := .int16) [⟨0x0102⟩] : Outcome RangeError (List UInt8)) = .ok front ∧
      (packAll (t := .int16) [] : Outcome RangeError (List UInt8)) = .ok back ∧
      (packAll (t := .int16) ([⟨0x0102⟩] ++ []) : Outcome RangeError (List UInt8)) =
        .ok (front ++ back) := by
  obtain ⟨unpacking, -, joining, -, singly⟩ := conversions_are_divisible .int16
  have unpacked : unpackInto (t := .int16) [9, 1, 2, 3, 4, 5, 6] 1 [⟨7⟩, ⟨7⟩, ⟨7⟩, ⟨7⟩] 1 (1 + 2) =
      .done [⟨7⟩, ⟨0x0102⟩, ⟨0x0304⟩, ⟨0x0506⟩] := by decide
  have packed : packInto (t := .int16) [⟨0x0102⟩, ⟨0xFF80⟩] 0 [7, 7, 7, 7, 7] 1 2 =
      .done [7, 1, 2, 0xFF, 0x80] := by decide
  exact ⟨(unpacking _ 1 _ 1 1 2 _).1 unpacked, ((singly _ 0 _ 1 2 _ (by decide)).1 packed).2,
    joining [⟨0x0102⟩] [] (by decide)⟩

end BytePacking
