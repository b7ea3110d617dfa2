import BytePacking.Proofs.Host.NewArrays
import BytePacking.Proofs.PackingPaths

/-!
# Conversions keep to their windows

A conversion reads the window that it is asked to read and writes the window that it is asked to
write, and nothing else has an influence on either.  Two calls with the same offsets and the same
length, on any two buffers that agree on the window that is read, leave the same in the window that
is written, whatever was there before; and every place outside that window keeps what it held.

What lies behind the end of an array therefore does not matter.  Arrays may be made longer at their
ends: a conversion that succeeded succeeds again, with the same result, and the new end of its
destination stays as it was.  This holds of every operation and of every call of the host.

That only a window of a list is read is said by means of `AgreeOn`.  Both halves come from the
equations for the operations, in which a source occurs as the blocks or the items of its window.
-/

set_option autoImplicit false

namespace BytePacking

/-! ## Lists that agree on a window -/

section Lists

variable {α : Type} {xs ys items : List α} {start count : Nat}

/-- Two lists hold the same at the `count` places from `start` on. -/
def AgreeOn (xs ys : List α) (start count : Nat) : Prop :=
  ∀ i < count, xs[start + i]? = ys[start + i]?

/-- Whether two lists agree on a window is found by comparing the two slices. -/
instance [DecidableEq α] (xs ys : List α) (start count : Nat) :
    Decidable (AgreeOn xs ys start count) :=
  inferInstanceAs (Decidable (∀ i < count, _))

/-- Lists that agree on a window have the same items there. -/
theorem AgreeOn.take_drop_eq (same : AgreeOn xs ys start count) :
    (xs.drop start).take count = (ys.drop start).take count := by
  apply List.ext_getElem?
  intro i
  by_cases inside : i < count
  · rw [getElem?_take_drop inside, getElem?_take_drop inside, same i inside]
  · rw [List.getElem?_take, List.getElem?_take, if_neg inside, if_neg inside]

/-- Lists that agree on the window of some blocks are cut into the same blocks there. -/
theorem AgreeOn.cut_drop_eq {width len : Nat} (same : AgreeOn xs ys start (len * width)) :
    Blocks.cut width len (xs.drop start) = Blocks.cut width len (ys.drop start) := by
  rw [← Blocks.cut_take, same.take_drop_eq, Blocks.cut_take]

/-- A list agrees with every longer one that begins with it. -/
theorem agreeOn_append (more : List α) (h : start + count ≤ xs.length) :
    AgreeOn xs (xs ++ more) start count := by
  intro i hi
  rw [List.getElem?_append_left (by omega)]

/-- With the same run in the place of their own items two lists agree on the window of the run. -/
theorem agreeOn_splice (number : items.length = count) (hx : start + count ≤ xs.length)
    (hy : start + count ≤ ys.length) :
    AgreeOn (splice xs start items) (splice ys start items) start count := by
  subst number
  intro i hi
  rw [getElem?_splice_add hx hi, getElem?_splice_add hy hi]

/-- A run inside a list changes neither the length of the list nor any place outside the window of
the run. -/
theorem splice_keeps (number : items.length = count) (room : start + count ≤ xs.length) :
    (splice xs start items).length = xs.length ∧
      ∀ p, p < start ∨ start + count ≤ p → (splice xs start items)[p]? = xs[p]? := by
  subst number
  exact ⟨length_splice room, fun p outside => getElem?_splice_of_outside room outside⟩

/-- A run inside a list is put into every longer one at the same place. -/
theorem splice_append_left (more : List α) (number : items.length = count)
    (room : start + count ≤ xs.length) :
    splice (xs ++ more) start items = splice xs start items ++ more := by
  subst number
  have before : start ≤ xs.length := by omega
  simp [splice, List.take_append_of_le_length before, List.drop_append_of_le_length room]

/-- A range that fits a list fits a longer one. -/
theorem Window.Fits.append (h : Fits xs.length start count) (more : List α) :
    Fits (xs ++ more).length start count := by
  refine ⟨h.word, Nat.le_trans h.inside ?_⟩
  simp

end Lists

variable {t : ElementType}

/-! ## From bytes to elements -/

section Unpacking

variable {bytes bytes' : List UInt8} {byteStart destStart len : Nat}
  {dest dest' filled filled' : List (Element t)}

/-- Only the bytes of the window matter to the slots that are filled. -/
theorem unpackInto_agreeOn
    (h : unpackInto bytes byteStart dest destStart len = .done filled)
    (h' : unpackInto bytes' byteStart dest' destStart len = .done filled')
    (same : AgreeOn bytes bytes' byteStart (len * t.width)) :
    AgreeOn filled filled' destStart len := by
  obtain ⟨-, slots, rfl⟩ := fits_of_unpackInto_eq_done h
  obtain ⟨-, slots', rfl⟩ := fits_of_unpackInto_eq_done h'
  rw [same.cut_drop_eq]
  exact agreeOn_splice (Element.length_map_ofBlock_cut ..) slots.inside slots'.inside

/-- Reading in place changes nothing outside of its window. -/
theorem unpackInto_keeps (h : unpackInto bytes byteStart dest destStart len = .done filled) :
    filled.length = dest.length ∧
      ∀ p, p < destStart ∨ destStart + len ≤ p → filled[p]? = dest[p]? := by
  obtain ⟨-, slots, rfl⟩ := fits_of_unpackInto_eq_done h
  exact splice_keeps (Element.length_map_ofBlock_cut ..) slots.inside

/-- Reading in place is the same with more bytes behind the source and more elements behind the
destination. -/
theorem unpackInto_append (more : List UInt8) (others : List (Element t))
    (h : unpackInto bytes byteStart dest destStart len = .done filled) :
    unpackInto (bytes ++ more) byteStart (dest ++ others) destStart len =
      .done (filled ++ others) := by
  obtain ⟨source, slots, rfl⟩ := fits_of_unpackInto_eq_done h
  rw [unpackInto_eq, if_pos (source.append more), if_pos (slots.append others),
    ← (agreeOn_append more source.inside).cut_drop_eq,
    splice_append_left others (Element.length_map_ofBlock_cut ..) slots.inside]

/-- Reading into a new array is the same with more bytes behind the source. -/
theorem unpack_append (more : List UInt8)
    (h : unpack t bytes byteStart destStart len = .ok filled) :
    unpack t (bytes ++ more) byteStart destStart len = .ok filled := by
  obtain ⟨source, word, rfl⟩ := fits_of_unpack_eq_ok h
  rw [unpack_eq, if_pos (source.append more), if_pos word, if_pos (room_of_unpack_eq_ok h),
    ← (agreeOn_append more source.inside).cut_drop_eq]

/-- Reading one element is the same with more bytes behind it. -/
theorem load_append {v : Element t} {start : Nat} (more : List UInt8)
    (h : load t bytes start = .ok v) : load t (bytes ++ more) start = .ok v := by
  rw [load_eq] at h
  split at h
  · next source =>
    rwa [load_eq, if_pos (source.append more),
      ← (agreeOn_append more source.inside).take_drop_eq]
  · cases h

end Unpacking

/-! ## From elements to bytes -/

section Packing

variable {values values' : List (Element t)} {arrayStart byteStart len : Nat}
  {dest dest' packed packed' : List UInt8}

/-- Only the elements of the range matter to the bytes that are written. -/
theorem packInto_agreeOn
    (h : packInto values arrayStart dest byteStart len = .done packed)
    (h' : packInto values' arrayStart dest' byteStart len = .done packed')
    (same : AgreeOn values values' arrayStart len) :
    AgreeOn packed packed' byteStart (len * t.width) := by
  obtain ⟨-, bytes, rfl⟩ := fits_of_packInto_eq_done h
  obtain ⟨array, bytes', rfl⟩ := fits_of_packInto_eq_done h'
  rw [same.take_drop_eq]
  exact agreeOn_splice (length_toBytes_take_drop array.inside) bytes.inside bytes'.inside

/-- Writing in place changes nothing outside of its window. -/
theorem packInto_keeps (h : packInto values arrayStart dest byteStart len = .done packed) :
    packed.length = dest.length ∧
      ∀ p, p < byteStart ∨ byteStart + len * t.width ≤ p → packed[p]? = dest[p]? := by
  obtain ⟨array, bytes, rfl⟩ := fits_of_packInto_eq_done h
  exact splice_keeps (length_toBytes_take_drop array.inside) bytes.inside

/-- Writing in place is the same with more elements behind the source and more bytes behind the
destination. -/
theorem packInto_append (more : List (Element t)) (others : List UInt8)
    (h : packInto values arrayStart dest byteStart len = .done packed) :
    packInto (values ++ more) arrayStart (dest ++ others) byteStart len =
      .done (packed ++ others) := by
  obtain ⟨array, bytes, rfl⟩ := fits_of_packInto_eq_done h
  rw [packInto_eq, if_pos (array.append more), if_pos (bytes.append others),
    ← (agreeOn_append more array.inside).take_drop_eq,
    splice_append_left others (length_toBytes_take_drop array.inside) bytes.inside]

/-- Writing to a new buffer is the same with more elements behind the source. -/
theorem pack_append (more : List (Element t))
    (h : pack values arrayStart byteStart len = .ok packed) :
    pack (values ++ more) arrayStart byteStart len = .ok packed := by
  obtain ⟨array, room, rfl⟩ := fits_of_pack_eq_ok h
  have limit := AddressSpace.allocationLimit_lt_wordLimit
  rw [pack_eq, if_pos (array.append more), if_pos (by omega), if_pos room,
    ← (agreeOn_append more array.inside).take_drop_eq]

/-- Writing one element is the same with more bytes behind it. -/
theorem store_append {v : Element t} {start : Nat} (others : List UInt8)
    (h : store v dest start = .done packed) :
    store v (dest ++ others) start = .done (packed ++ others) := by
  rw [store_eq_packInto] at h ⊢
  exact packInto_append [] others h

end Packing

/-! ## Calls of the host -/

namespace Host

section Arguments

variable {α σ δ : Type} {region source target : Region} {inStart outStart start len : Int32}

/-- A call that makes an array gives the same of a longer one if what it does with its arguments
does. -/
theorem outcome_reading_append {γ : Type} {next : Source σ → Reply γ} {data : Option (List σ)}
    {a : γ} (more : List σ)
    (keeps : ∀ s, (next s).outcome = .ok a →
      (next { s with items := s.items ++ more }).outcome = .ok a)
    (h : (readingArguments region data start len >>= next).outcome = .ok a) :
    (readingArguments region (data.map (· ++ more)) start len >>= next).outcome = .ok a := by
  rw [Reply.outcome_bind, Outcome.bind_eq_ok_iff] at h ⊢
  obtain ⟨s, accepted, made⟩ := h
  obtain ⟨rfl, hstart, hlen⟩ := outcome_readingArguments_eq_ok_iff.1 accepted
  refine ⟨{ s with items := s.items ++ more }, ?_, keeps s made⟩
  exact outcome_readingArguments_eq_ok_iff.2 ⟨rfl, hstart, hlen⟩

/-- A copying call that has succeeded has left an array. -/
theorem exists_result_update_of_ok {arguments : Reply α} {dest : Option (List δ)}
    {change : α → Update RangeError (List δ)}
    (ok : (arguments.update dest change).outcome = .ok ()) :
    ∃ new, (arguments.update dest change).result = .ok new := by
  rw [Reply.outcome_update, Outcome.bind_eq_ok_iff] at ok
  obtain ⟨a, accepted, changed⟩ := ok
  obtain ⟨new, left⟩ := Update.exists_result_of_ok (Outcome.mapError_eq_ok_iff.1 changed)
  refine ⟨new, ?_⟩
  rw [Reply.result_update, accepted, Outcome.ok_bind, left, Outcome.mapError_ok]

/-- A call that copies between longer arrays leaves the same, and behind it their new ends, if its
change does. -/
theorem result_copying_append {record : Record} {inData : Option (List σ)}
    {outData : Option (List δ)} {change : Source σ × Target δ → Update RangeError (List δ)}
    {new : List δ} (more : List σ) (others : List δ)
    (keeps : ∀ s d, change (s, d) = .done new →
      change ({ s with items := s.items ++ more }, { d with items := d.items ++ others }) =
        .done (new ++ others))
    (h : (Reply.update
      (do
        Reply.record record
        copyingArguments source target inData inStart outData outStart len)
      outData change).result = .ok new) :
    (Reply.update
      (do
        Reply.record record
        copyingArguments source target (inData.map (· ++ more)) inStart
          (outData.map (· ++ others)) outStart len)
      (outData.map (· ++ others)) change).result = .ok (new ++ others) := by
  rw [Reply.result_update, Reply.record_bind, Outcome.bind_eq_ok_iff] at h ⊢
  obtain ⟨⟨s, d⟩, accepted, changed⟩ := h
  rw [Outcome.mapError_eq_ok_iff, Update.result_eq_ok_iff] at changed
  obtain ⟨⟨rfl, hin, hlen⟩, rfl, hout⟩ := outcome_copyingArguments_eq_ok_iff.1 accepted
  -- What is accepted does not depend on the items of the arrays, and only these have changed.
  refine ⟨({ s with items := s.items ++ more }, { d with items := d.items ++ others }), ?_, ?_⟩
  · exact outcome_copyingArguments_eq_ok_iff.2 ⟨⟨rfl, hin, hlen⟩, rfl, hout⟩
  · rw [Outcome.mapError_eq_ok_iff, Update.result_eq_ok_iff]
    exact keeps s d changed

end Arguments

section Calls

variable {inStart outStart start len : Int32}

/-- A call that writes in place is the same with more behind both of its arrays. -/
theorem packInto_append {inData : Option (List (Element t))} {outData : Option (List Int8)}
    (more : List (Element t)) (others : List Int8)
    (ok : (packInto inData inStart outData outStart len).outcome = .ok ()) :
    ∃ packed, (packInto inData inStart outData outStart len).result = .ok packed ∧
      (packInto (inData.map (· ++ more)) inStart (outData.map (· ++ others)) outStart
        len).result = .ok (packed ++ others) := by
  obtain ⟨packed, left⟩ := exists_result_update_of_ok ok
  refine ⟨packed, left, result_copying_append more others ?_ left⟩
  intro s d changed
  obtain ⟨bytes, operation, rfl⟩ := Update.map_eq_done_iff.1 changed
  refine Update.map_eq_done_iff.2 ⟨bytes ++ unsigned others, ?_, by simp⟩
  simpa using BytePacking.packInto_append more (unsigned others) operation

/-- A call that reads in place is the same with more behind both of its arrays. -/
theorem unpackInto_append {inData : Option (List Int8)} {outData : Option (List (Element t))}
    (more : List Int8) (others : List (Element t))
    (ok : (unpackInto inData inStart outData outStart len).outcome = .ok ()) :
    ∃ filled, (unpackInto inData inStart outData outStart len).result = .ok filled ∧
      (unpackInto (inData.map (· ++ more)) inStart (outData.map (· ++ others)) outStart
        len).result = .ok (filled ++ others) := by
  obtain ⟨filled, left⟩ := exists_result_update_of_ok ok
  refine ⟨filled, left, result_copying_append more others ?_ left⟩
  intro s d changed
  simpa using BytePacking.unpackInto_append (unsigned more) others changed

/-- A call that makes an array of bytes is the same with more elements behind the source. -/
theorem pack_append {data : Option (List (Element t))} {packed : List Int8}
    (more : List (Element t)) (h : (pack data start len).outcome = .ok packed) :
    (pack (data.map (· ++ more)) start len).outcome = .ok packed := by
  apply outcome_reading_append more ?_ h
  intro s made
  rw [Reply.outcome_bind, Reply.outcome_ofOutcome, Outcome.bind_eq_ok_iff] at made ⊢
  obtain ⟨bytes, operation, result⟩ := made
  rw [Outcome.mapError_eq_ok_iff] at operation
  exact ⟨bytes, by rw [BytePacking.pack_append more operation, Outcome.mapError_ok], result⟩

/-- A call that makes an array of elements is the same with more bytes behind the source. -/
theorem unpack_append {data : Option (List Int8)} {unpacked : List (Element t)}
    (more : List Int8) (h : (unpack t data start len).outcome = .ok unpacked) :
    (unpack t (data.map (· ++ more)) start len).outcome = .ok unpacked := by
  apply outcome_reading_append more ?_ h
  intro s made
  rw [Reply.outcome_ofOutcome, Outcome.mapError_eq_ok_iff] at made ⊢
  rw [unsigned_append]
  exact BytePacking.unpack_append (unsigned more) made

end Calls

end Host

/-! ## All conversions -/

/-- A conversion in place depends on the window that it reads and on nothing else.  Two calls with
the same offsets and length that read the same leave the same in the window that they write,
whatever else their arrays hold and however long they are; and outside this window each destination
keeps its length and its contents.

Nor does it matter to any operation, or to any call of the host, what is behind the ends of its
arrays.  What succeeds also succeeds on longer arrays, with the same result, and a destination keeps
its new end. -/
theorem conversions_keep_to_windows (t : ElementType) :
    -- Two calls on different arrays.
    (∀ (bytes bytes' : List UInt8) (byteStart : Nat) (dest dest' : List (Element t))
      (destStart len : Nat) (filled filled' : List (Element t)),
      unpackInto bytes byteStart dest destStart len = .done filled →
      unpackInto bytes' byteStart dest' destStart len = .done filled' →
      AgreeOn bytes bytes' byteStart (len * t.width) → AgreeOn filled filled' destStart len) ∧
    (∀ (bytes : List UInt8) (byteStart : Nat) (dest : List (Element t)) (destStart len : Nat)
      (filled : List (Element t)),
      unpackInto bytes byteStart dest destStart len = .done filled →
      filled.length = dest.length ∧
        ∀ p, p < destStart ∨ destStart + len ≤ p → filled[p]? = dest[p]?) ∧
    (∀ (values values' : List (Element t)) (arrayStart : Nat) (dest dest' : List UInt8)
      (byteStart len : Nat) (packed packed' : List UInt8),
      packInto values arrayStart dest byteStart len = .done packed →
      packInto values' arrayStart dest' byteStart len = .done packed' →
      AgreeOn values values' arrayStart len → AgreeOn packed packed' byteStart (len * t.width)) ∧
    (∀ (values : List (Element t)) (arrayStart : Nat) (dest : List UInt8) (byteStart len : Nat)
      (packed : List UInt8),
      packInto values arrayStart dest byteStart len = .done packed →
      packed.length = dest.length ∧
        ∀ p, p < byteStart ∨ byteStart + len * t.width ≤ p → packed[p]? = dest[p]?) ∧
    -- Operations on longer arrays.
    (∀ (bytes more : List UInt8) (byteStart : Nat) (dest others : List (Element t))
      (destStart len : Nat) (filled : List (Element t)),
      unpackInto bytes byteStart dest destStart len = .done filled →
      unpackInto (bytes ++ more) byteStart (dest ++ others) destStart len =
        .done (filled ++ others)) ∧
    (∀ (values more : List (Element t)) (arrayStart : Nat) (dest others : List UInt8)
      (byteStart len : Nat) (packed : List UInt8),
      packInto values arrayStart dest byteStart len = .done packed →
      packInto (values ++ more) arrayStart (dest ++ others) byteStart len =
        .done (packed ++ others)) ∧
    (∀ (bytes more : List UInt8) (byteStart destStart len : Nat) (unpacked : List (Element t)),
      unpack t bytes byteStart destStart len = .ok unpacked →
      unpack t (bytes ++ more) byteStart destStart len = .ok unpacked) ∧
    (∀ (values more : List (Element t)) (arrayStart byteStart len : Nat) (packed : List UInt8),
      pack values arrayStart byteStart len = .ok packed →
      pack (values ++ more) arrayStart byteStart len = .ok packed) ∧
    (∀ (bytes more : List UInt8) (start : Nat) (v : Element t),
      load t bytes start = .ok v → load t (bytes ++ more) start = .ok v) ∧
    (∀ (v : Element t) (dest others : List UInt8) (start : Nat) (stored : List UInt8),
      store v dest start = .done stored →
      store v (dest ++ others) start = .done (stored ++ others)) ∧
    -- Calls of the host on longer arrays.
    (∀ (inData : Option (List (Element t))) (outData : Option (List Int8))
      (inStart outStart len : Int32) (more : List (Element t)) (others : List Int8),
      (Host.packInto inData inStart outData outStart len).outcome = .ok () →
      ∃ packed, (Host.packInto inData inStart outData outStart len).result = .ok packed ∧
        (Host.packInto (inData.map (· ++ more)) inStart (outData.map (· ++ others)) outStart
          len).result = .ok (packed ++ others)) ∧
    (∀ (inData : Option (List Int8)) (outData : Option (List (Element t)))
      (inStart outStart len : Int32) (more : List Int8) (others : List (Element t)),
      (Host.unpackInto inData inStart outData outStart len).outcome = .ok () →
      ∃ filled, (Host.unpackInto inData inStart outData outStart len).result = .ok filled ∧
        (Host.unpackInto (inData.map (· ++ more)) inStart (outData.map (· ++ others)) outStart
          len).result = .ok (filled ++ others)) ∧
    (∀ (data : Option (List (Element t))) (start len : Int32) (more : List (Element t))
      (packed : List Int8), (Host.pack data start len).outcome = .ok packed →
      (Host.pack (data.map (· ++ more)) start len).outcome = .ok packed) ∧
    ∀ (data : Option (List Int8)) (start len : Int32) (more : List Int8)
      (unpacked : List (Element t)), (Host.unpack t data start len).outcome = .ok unpacked →
      (Host.unpack t (data.map (· ++ more)) start len).outcome = .ok unpacked := by
  refine ⟨?_, ?_, ?_, ?_, ?_, ?_, ?_, ?_, ?_, ?_, ?_, ?_, ?_, ?_⟩
  · intro bytes bytes' byteStart dest dest' destStart len filled filled' h h' same
    exact unpackInto_agreeOn h h' same
  · intro bytes byteStart dest destStart len filled h
    exact unpackInto_keeps h
  · intro values values' arrayStart dest dest' byteStart len packed packed' h h' same
    exact packInto_agreeOn h h' same
  · intro values arrayStart dest byteStart len packed h
    exact packInto_keeps h
  · intro bytes more byteStart dest others destStart len filled h
    exact unpackInto_append more others h
  · intro values more arrayStart dest others byteStart len packed h
    exact packInto_append more others h
  · intro bytes more byteStart destStart len unpacked h
    exact unpack_append more h
  · intro values more arrayStart byteStart len packed h
    exact pack_append more h
  · intro bytes more start v h
    exact load_append more h
  · intro v dest others start stored h
    exact store_append others h
  · intro inData outData inStart outStart len more others ok
    exact Host.packInto_append more others ok
  · intro inData outData inStart outStart len more others ok
    exact Host.unpackInto_append more others ok
  · intro data start len more packed ok
    exact Host.pack_append more ok
  · intro data start len more unpacked ok
    exact Host.unpack_append more ok

/-- One number of sixteen bits behind different bytes, read into arrays of different lengths; and a
number that is packed for the host up to the end of an array and then not up to its end. -/
theorem conversions_keep_to_windows_int16 :
    AgreeOn [(⟨5⟩ : Element .int16), ⟨0xFF80⟩] [⟨6⟩, ⟨0xFF80⟩, ⟨7⟩] 1 1 ∧
    unpackInto (t := .int16) ([9, 0xFF, 0x80] ++ [4]) 1 ([⟨5⟩, ⟨5⟩] ++ [⟨8⟩]) 1 1 =
      .done [⟨5⟩, ⟨0xFF80⟩, ⟨8⟩] ∧
    ∃ packed, (Host.packInto (t := .int16) (some [⟨0xFF80⟩]) 0 (some [3, 3]) 0 1).result =
        .ok packed ∧
      (Host.packInto (t := .int16) (some [⟨0xFF80⟩, ⟨1⟩]) 0 (some [3, 3, 4]) 0 1).result =
        .ok (packed ++ [4]) := by
  obtain ⟨reading, -, -, -, longer, -, -, -, -, -, packing, -⟩ :=
    conversions_keep_to_windows .int16
  have first : unpackInto (t := .int16) [9, 0xFF, 0x80] 1 [⟨5⟩, ⟨5⟩] 1 1 =
      .done [⟨5⟩, ⟨0xFF80⟩] := by decide
  have second : unpackInto (t := .int16) [8, 0xFF, 0x80, 2, 1] 1 [⟨6⟩, ⟨6⟩, ⟨7⟩] 1 1 =
      .done [⟨6⟩, ⟨0xFF80⟩, ⟨7⟩] := by decide
  have packed : (Host.packInto (t := .int16) (some [⟨0xFF80⟩]) 0 (some [3, 3]) 0 1).outcome =
      .ok () := by decide
  exact ⟨reading _ _ _ _ _ _ _ _ _ first second (by decide), longer _ [4] _ _ [⟨8⟩] _ _ _ first,
    packing _ _ _ _ _ [⟨1⟩] [4] packed⟩

end BytePacking
