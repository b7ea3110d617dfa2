import BytePacking.Pack
import BytePacking.Proofs.ElementList
import BytePacking.Proofs.RangeVerdict
import BytePacking.Proofs.Splice
import BytePacking.Unpack

/-!
# How the operations end, on all arguments

One equation for each operation says how it ends and what it leaves, whatever its arguments are.
All sums and products in them are exact.  An operation in place splices what it has read into its
destination (`packInto_eq`, `unpackInto_eq`, `store_eq`), or refuses a range that does not fit and
leaves the destination alone.  An operation that makes a new array gives what it has read behind as
many zeros as were asked for (`pack_eq`, `unpack_eq`); a single element is read from its own block
(`load_eq`).

Which of two errors is reported follows from the order of the conditions: a range on the side that
is read comes before a range on the side that is written.
-/

set_option autoImplicit false

namespace BytePacking

variable {t : ElementType}

/-- The elements of a range inside a list have as many bytes as widths were asked for. -/
theorem length_toBytes_take_drop {values : List (Element t)} {arrayStart len : Nat}
    (h : arrayStart + len ≤ values.length) :
    (((values.drop arrayStart).take len).flatMap Element.toBytes).length = len * t.width := by
  rw [Element.length_flatMap_toBytes, length_take_drop h]

/-- Elements are packed in place where both of their ranges fit. -/
theorem packInto_eq (values : List (Element t)) (arrayStart : Nat) (dest : List UInt8)
    (byteStart len : Nat) :
    packInto values arrayStart dest byteStart len =
      if Window.Fits values.length arrayStart len then
        if Window.Fits dest.length byteStart (len * t.width) then
          .done (splice dest byteStart
            (((values.drop arrayStart).take len).flatMap Element.toBytes))
        else ⟨.error (Window.refusal .bytes dest.length byteStart (len * t.width)), dest⟩
      else ⟨.error (Window.refusal .elements values.length arrayStart len), dest⟩ := by
  split
  · next array =>
    split
    · next bytes =>
      rw [packInto_eq_done array.word array.inside bytes.word bytes.inside, splice,
        length_toBytes_take_drop array.inside]
    · next bytes =>
      unfold packInto
      rw [Window.check_of_fits array, Window.checkBlocks_of_not_fits bytes]
      rfl
  · next array =>
    unfold packInto
    rw [Window.check_of_not_fits array]
    rfl

/-- Elements are unpacked in place where both of their ranges fit. -/
theorem unpackInto_eq (bytes : List UInt8) (byteStart : Nat) (dest : List (Element t))
    (destStart len : Nat) :
    unpackInto bytes byteStart dest destStart len =
      if Window.Fits bytes.length byteStart (len * t.width) then
        if Window.Fits dest.length destStart len then
          .done (splice dest destStart
            ((Blocks.cut t.width len (bytes.drop byteStart)).map (Element.ofBlock t)))
        else ⟨.error (Window.refusal .elements dest.length destStart len), dest⟩
      else ⟨.error (Window.refusal .bytes bytes.length byteStart (len * t.width)), dest⟩ := by
  split
  · next source =>
    split
    · next slots =>
      rw [unpackInto_eq_done source.word source.inside slots.word slots.inside, splice,
        Element.length_map_ofBlock_cut]
    · next slots =>
      unfold unpackInto
      rw [Window.checkBlocks_of_fits source, Window.check_of_not_fits slots]
      rfl
  · next source =>
    unfold unpackInto
    rw [Window.checkBlocks_of_not_fits source]
    rfl

/-- On destinations of one length packing in place ends in one way: it splices the same bytes into
each of them, or is refused for the same reason and leaves them as they were. -/
theorem packInto_cases (values : List (Element t)) (arrayStart byteStart len capacity : Nat) :
    (arrayStart + len ≤ values.length ∧ byteStart + len * t.width ≤ capacity ∧
      ∀ dest, dest.length = capacity → packInto values arrayStart dest byteStart len =
        .done (splice dest byteStart
          (((values.drop arrayStart).take len).flatMap Element.toBytes))) ∨
    ∃ e, ∀ dest, dest.length = capacity →
      packInto values arrayStart dest byteStart len = ⟨.error e, dest⟩ := by
  by_cases array : Window.Fits values.length arrayStart len
  · by_cases bytes : Window.Fits capacity byteStart (len * t.width)
    · refine .inl ⟨array.inside, bytes.inside, ?_⟩
      rintro dest rfl
      rw [packInto_eq, if_pos array, if_pos bytes]
    · refine .inr ⟨Window.refusal .bytes capacity byteStart (len * t.width), ?_⟩
      rintro dest rfl
      rw [packInto_eq, if_pos array, if_neg bytes]
  · refine .inr ⟨Window.refusal .elements values.length arrayStart len, ?_⟩
    intro dest _
    rw [packInto_eq, if_neg array]

/-- Packing in place succeeds, or it is refused and leaves its destination as it was. -/
theorem packInto_done_or_error (values : List (Element t)) (arrayStart : Nat) (dest : List UInt8)
    (byteStart len : Nat) :
    (packInto values arrayStart dest byteStart len).outcome = .ok () ∨
      ∃ e, packInto values arrayStart dest byteStart len = ⟨.error e, dest⟩ := by
  rcases packInto_cases values arrayStart byteStart len dest.length with
    ⟨-, -, done⟩ | ⟨e, refused⟩
  · left
    rw [done dest rfl]
    rfl
  · exact .inr ⟨e, refused dest rfl⟩

/-- What a successful packing in place tells about its ranges, and what it leaves. -/
theorem fits_of_packInto_eq_done {values : List (Element t)} {arrayStart byteStart len : Nat}
    {buffer packed : List UInt8}
    (h : packInto values arrayStart buffer byteStart len = .done packed) :
    Window.Fits values.length arrayStart len ∧
      Window.Fits buffer.length byteStart (len * t.width) ∧
      packed = splice buffer byteStart
        (((values.drop arrayStart).take len).flatMap Element.toBytes) := by
  rw [packInto_eq] at h
  split at h
  · next array =>
    split at h
    · next bytes => exact ⟨array, bytes, (congrArg Update.dest h).symm⟩
    · cases congrArg Update.outcome h
  · cases congrArg Update.outcome h

/-- Writing in place succeeds where both ranges fit, and then the bytes of the elements lie in their
window. -/
theorem packInto_eq_done_iff {values : List (Element t)} {arrayStart byteStart len : Nat}
    {buffer packed : List UInt8} :
    packInto values arrayStart buffer byteStart len = .done packed ↔
      Window.Fits values.length arrayStart len ∧
        Window.Fits buffer.length byteStart (len * t.width) ∧
        packed = splice buffer byteStart
          (((values.drop arrayStart).take len).flatMap Element.toBytes) := by
  constructor
  · exact fits_of_packInto_eq_done
  · rintro ⟨array, bytes, rfl⟩
    rw [packInto_eq, if_pos array, if_pos bytes]

/-- Unpacking in place succeeds, or it is refused and leaves its destination as it was. -/
theorem unpackInto_done_or_error (bytes : List UInt8) (byteStart : Nat) (dest : List (Element t))
    (destStart len : Nat) :
    (unpackInto bytes byteStart dest destStart len).outcome = .ok () ∨
      ∃ e, unpackInto bytes byteStart dest destStart len = ⟨.error e, dest⟩ := by
  rw [unpackInto_eq]
  split
  · split
    · exact .inl rfl
    · exact .inr ⟨_, rfl⟩
  · exact .inr ⟨_, rfl⟩

/-- What a successful unpacking in place tells about its ranges, and what it leaves. -/
theorem fits_of_unpackInto_eq_done {bytes : List UInt8} {byteStart destStart len : Nat}
    {dest filled : List (Element t)}
    (h : unpackInto bytes byteStart dest destStart len = .done filled) :
    Window.Fits bytes.length byteStart (len * t.width) ∧
      Window.Fits dest.length destStart len ∧
      filled = splice dest destStart
        ((Blocks.cut t.width len (bytes.drop byteStart)).map (Element.ofBlock t)) := by
  rw [unpackInto_eq] at h
  split at h
  · next source =>
    split at h
    · next slots => exact ⟨source, slots, (congrArg Update.dest h).symm⟩
    · cases congrArg Update.outcome h
  · cases congrArg Update.outcome h

/-- Reading in place succeeds where both ranges fit, and then the elements of the blocks lie in
their window. -/
theorem unpackInto_eq_done_iff {bytes : List UInt8} {byteStart destStart len : Nat}
    {dest filled : List (Element t)} :
    unpackInto bytes byteStart dest destStart len = .done filled ↔
      Window.Fits bytes.length byteStart (len * t.width) ∧
        Window.Fits dest.length destStart len ∧
        filled = splice dest destStart
          ((Blocks.cut t.width len (bytes.drop byteStart)).map (Element.ofBlock t)) := by
  constructor
  · exact fits_of_unpackInto_eq_done
  · rintro ⟨source, slots, rfl⟩
    rw [unpackInto_eq, if_pos source, if_pos slots]

/-- One element is stored where its bytes fit. -/
theorem store_eq (v : Element t) (dest : List UInt8) (start : Nat) :
    store v dest start =
      if Window.Fits dest.length start t.width then .done (splice dest start v.toBytes)
      else ⟨.error (Window.refusal .bytes dest.length start t.width), dest⟩ := by
  unfold store
  rw [Window.checkBlocks_eq_check, Nat.one_mul]
  split
  · next bytes =>
    have block : ((Window.ofFits bytes).slice dest).length = t.width := by
      rw [Window.length_slice, Window.stop_ofFits, Window.start_ofFits, Nat.add_sub_cancel_left]
    rw [Window.check_of_fits bytes, Update.checked_ok, Window.modify,
      v.overwrite_of_length_eq block, splice, v.length_toBytes]
    rfl
  · next bytes => rw [Window.check_of_not_fits bytes, Update.checked_error]

/-- One element is loaded where its bytes are. -/
theorem load_eq (bytes : List UInt8) (start : Nat) :
    load t bytes start =
      if Window.Fits bytes.length start t.width then
        .ok (Element.ofBlock t ((bytes.drop start).take t.width))
      else .error (Window.refusal .bytes bytes.length start t.width) := by
  unfold load
  rw [Window.checkBlocks_eq_check, Nat.one_mul]
  split
  · next source =>
    have block : (Window.ofFits source).slice bytes = (bytes.drop start).take t.width := by
      rw [Window.slice, Window.stop_ofFits, Window.start_ofFits, Nat.add_sub_cancel_left]
    rw [Window.check_of_fits source, Outcome.ofExcept_ok, Outcome.ok_bind, block,
      Element.ofBytes_of_length_eq (length_take_drop source.inside)]
  · next source => rw [Window.check_of_not_fits source, Outcome.ofExcept_error, Outcome.error_bind]

/-- A new buffer is packed where the elements exist, its size is a word and it can exist. -/
theorem pack_eq (values : List (Element t)) (arrayStart byteStart len : Nat) :
    pack values arrayStart byteStart len =
      if Window.Fits values.length arrayStart len then
        if byteStart + len * t.width < AddressSpace.wordLimit then
          if byteStart + len * t.width ≤ AddressSpace.allocationLimit then
            .ok (List.replicate byteStart 0 ++
              ((values.drop arrayStart).take len).flatMap Element.toBytes)
          else .trap
        else .error ⟨.bytes, .overflow⟩
      else .error (Window.refusal .elements values.length arrayStart len) := by
  unfold pack
  split
  · next array =>
    rw [Window.check_of_fits array, Outcome.ofExcept_ok, Outcome.ok_bind]
    split
    · next word =>
      have size : (AddressSpace.mul? len t.width).bind (AddressSpace.add? · byteStart) =
          some (byteStart + len * t.width) := by
        rw [Nat.add_comm, AddressSpace.mul?, if_pos (by omega), Option.bind_some,
          AddressSpace.add?, if_pos (by omega)]
      simp only [size, Outcome.ofOption_some, Outcome.ok_bind]
      split
      · next room =>
        have bytes : Window.Fits (List.replicate (byteStart + len * t.width) (0 : UInt8)).length
            byteStart (len * t.width) :=
          ⟨word, Nat.le_of_eq List.length_replicate.symm⟩
        rw [AddressSpace.allocate_eq_ok _ (by omega), Outcome.ok_bind, packInto_eq, if_pos array,
          if_pos bytes, splice_replicate _ (by rw [length_toBytes_take_drop array.inside]),
          Update.result_done]
      · next room =>
        rw [AddressSpace.allocate_eq_trap _ (by omega), Outcome.trap_bind]
    · next word =>
      have size : (AddressSpace.mul? len t.width).bind (AddressSpace.add? · byteStart) = none := by
        rw [AddressSpace.mul?]
        split
        · rw [Option.bind_some, AddressSpace.add?, if_neg (by omega)]
        · rfl
      simp only [size, Outcome.ofOption_none, Outcome.error_bind]
  · next array =>
    rw [Window.check_of_not_fits array, Outcome.ofExcept_error, Outcome.error_bind]

/-- A new buffer within the limit is made. -/
theorem pack_ne_trap {values : List (Element t)} {arrayStart byteStart len : Nat}
    (room : byteStart + len * t.width ≤ AddressSpace.allocationLimit) :
    pack values arrayStart byteStart len ≠ .trap := by
  rw [pack_eq, if_pos room]
  split
  · split <;> nofun
  · nofun

/-- What a successful packing into a new buffer tells about its ranges, and what it gives. -/
theorem fits_of_pack_eq_ok {values : List (Element t)} {arrayStart byteStart len : Nat}
    {packed : List UInt8} (h : pack values arrayStart byteStart len = .ok packed) :
    Window.Fits values.length arrayStart len ∧
      byteStart + len * t.width ≤ AddressSpace.allocationLimit ∧
      packed = List.replicate byteStart 0 ++
        ((values.drop arrayStart).take len).flatMap Element.toBytes := by
  rw [pack_eq] at h
  split at h
  · next array =>
    split at h
    · split at h
      · next room =>
        cases h
        exact ⟨array, room, rfl⟩
      · cases h
    · cases h
  · cases h

/-- A new array is unpacked where the bytes exist, its length is a word and it can exist. -/
theorem unpack_eq (bytes : List UInt8) (byteStart destStart len : Nat) :
    unpack t bytes byteStart destStart len =
      if Window.Fits bytes.length byteStart (len * t.width) then
        if destStart + len < AddressSpace.wordLimit then
          if (destStart + len) * t.width ≤ AddressSpace.allocationLimit then
            .ok (List.replicate destStart (Element.zero t) ++
              (Blocks.cut t.width len (bytes.drop byteStart)).map (Element.ofBlock t))
          else .trap
        else .error ⟨.elements, .overflow⟩
      else .error (Window.refusal .bytes bytes.length byteStart (len * t.width)) := by
  unfold unpack
  split
  · next source =>
    rw [Window.checkBlocks_of_fits source, Outcome.ofExcept_ok, Outcome.ok_bind]
    split
    · next word =>
      rw [AddressSpace.add?, if_pos word, Outcome.ofOption_some, Outcome.ok_bind]
      split
      · next room =>
        have slots : Window.Fits (List.replicate (destStart + len) (Element.zero t)).length
            destStart len :=
          ⟨word, Nat.le_of_eq List.length_replicate.symm⟩
        rw [AddressSpace.allocate_eq_ok _ room, Outcome.ok_bind, unpackInto_eq, if_pos source,
          if_pos slots, splice_replicate _ (by rw [Element.length_map_ofBlock_cut]),
          Update.result_done]
      · next room =>
        rw [AddressSpace.allocate_eq_trap _ (by omega), Outcome.trap_bind]
    · next word =>
      rw [AddressSpace.add?, if_neg word, Outcome.ofOption_none, Outcome.error_bind]
  · next source =>
    rw [Window.checkBlocks_of_not_fits source, Outcome.ofExcept_error, Outcome.error_bind]

/-- Without an offset a new array is no larger than the bytes that it is read from, so that nothing
else is needed. -/
theorem unpack_zero_eq {bytes : List UInt8}
    (held : bytes.length ≤ AddressSpace.allocationLimit) (byteStart len : Nat) :
    unpack t bytes byteStart 0 len =
      if Window.Fits bytes.length byteStart (len * t.width) then
        .ok ((Blocks.cut t.width len (bytes.drop byteStart)).map (Element.ofBlock t))
      else .error (Window.refusal .bytes bytes.length byteStart (len * t.width)) := by
  have limit := AddressSpace.allocationLimit_lt_wordLimit
  have few : len ≤ len * t.width := t.le_mul_width _
  rw [unpack_eq, Nat.zero_add]
  split
  · next source =>
    have inside := source.inside
    rw [if_pos (by omega), if_pos (by omega), List.replicate_zero, List.nil_append]
  · rfl

/-- A new array within the limit is made. -/
theorem unpack_ne_trap {bytes : List UInt8} {byteStart destStart len : Nat}
    (room : (destStart + len) * t.width ≤ AddressSpace.allocationLimit) :
    unpack t bytes byteStart destStart len ≠ .trap := by
  rw [unpack_eq, if_pos room]
  split
  · split <;> nofun
  · nofun

/-- What a successful unpacking into a new array tells about its ranges, and what it gives. -/
theorem fits_of_unpack_eq_ok {bytes : List UInt8} {byteStart destStart len : Nat}
    {unpacked : List (Element t)} (h : unpack t bytes byteStart destStart len = .ok unpacked) :
    Window.Fits bytes.length byteStart (len * t.width) ∧
      destStart + len < AddressSpace.wordLimit ∧
      unpacked = List.replicate destStart (Element.zero t) ++
        (Blocks.cut t.width len (bytes.drop byteStart)).map (Element.ofBlock t) := by
  rw [unpack_eq] at h
  split at h
  · next source =>
    split at h
    · next word =>
      split at h
      · cases h
        exact ⟨source, word, rfl⟩
      · cases h
    · cases h
  · cases h

/-- A new array that was unpacked is one that can exist. -/
theorem room_of_unpack_eq_ok {bytes : List UInt8} {byteStart destStart len : Nat}
    {unpacked : List (Element t)} (h : unpack t bytes byteStart destStart len = .ok unpacked) :
    (destStart + len) * t.width ≤ AddressSpace.allocationLimit := by
  obtain ⟨source, word, -⟩ := fits_of_unpack_eq_ok h
  apply Nat.le_of_not_lt
  intro large
  rw [unpack_eq, if_pos source, if_pos word, if_neg (Nat.not_le.2 large)] at h
  cases h

end BytePacking
