import BytePacking.Proofs.Endings

/-!
# Packing and unpacking undo each other

Elements that were packed at some offset are unpacked from there bit by bit, into whatever slots
have room for them (`unpack_packed`): a range that was accepted on the way in is accepted on the way
out.  Bytes that were unpacked are packed again exactly as they were, at whatever offset
(`pack_unpacked`): no pattern of bytes is ever replaced by another with the same meaning, and
different windows never unpack to the same elements.

Both rest on the inverse laws of a single element and its block, carried over to lists of elements.
-/

set_option autoImplicit false

namespace BytePacking

variable {t : ElementType}

/-- Elements that lie in a buffer, one behind the other, are read from it. -/
theorem unpackInto_splice {vs : List (Element t)} {buffer : List UInt8} {byteStart : Nat}
    {slots : List (Element t)} {destStart len : Nat} (count : vs.length = len)
    (bytes : Window.Fits buffer.length byteStart (len * t.width))
    (array : Window.Fits slots.length destStart len) :
    unpackInto (splice buffer byteStart (vs.flatMap Element.toBytes)) byteStart slots destStart
      len = .done (splice slots destStart vs) := by
  subst count
  have inside : byteStart + (vs.flatMap Element.toBytes).length ≤ buffer.length := by
    rw [Element.length_flatMap_toBytes]
    exact bytes.inside
  rw [unpackInto_eq, length_splice inside, if_pos bytes, if_pos array,
    drop_splice (by omega), Element.map_ofBlock_cut_flatMap]

/-- Elements whose bytes lie somewhere in a buffer are read from there into a new array. -/
theorem unpack_of_drop_eq {vs : List (Element t)} {bytes rest : List UInt8} {byteStart len : Nat}
    (count : vs.length = len) (source : Window.Fits bytes.length byteStart (len * t.width))
    (lie : bytes.drop byteStart = vs.flatMap Element.toBytes ++ rest)
    (room : len * t.width ≤ AddressSpace.allocationLimit) :
    unpack t bytes byteStart 0 len = .ok vs := by
  subst count
  have limit := AddressSpace.allocationLimit_lt_wordLimit
  have few : vs.length ≤ vs.length * t.width := t.le_mul_width _
  rw [unpack_eq, if_pos source, Nat.zero_add, if_pos (by omega), if_pos room, lie,
    Element.map_ofBlock_cut_flatMap]
  rfl

/-- The window of a buffer from which elements were read holds exactly their bytes. -/
theorem flatMap_toBytes_of_window {bytes : List UInt8} {byteStart len : Nat}
    (source : Window.Fits bytes.length byteStart (len * t.width)) :
    ((Blocks.cut t.width len (bytes.drop byteStart)).map (Element.ofBlock t)).flatMap
      Element.toBytes = (bytes.drop byteStart).take (len * t.width) := by
  apply Element.flatMap_toBytes_map_ofBlock
  have := source.inside
  rw [List.length_drop]
  omega

/-- Behind its zeros a new array holds the elements of the window, and nothing else. -/
theorem take_drop_unpacked (bytes : List UInt8) (byteStart destStart len : Nat) :
    ((List.replicate destStart (Element.zero t) ++
      (Blocks.cut t.width len (bytes.drop byteStart)).map (Element.ofBlock t)).drop
        destStart).take len =
      (Blocks.cut t.width len (bytes.drop byteStart)).map (Element.ofBlock t) := by
  rw [List.drop_left' List.length_replicate]
  exact List.take_of_length_le (Nat.le_of_eq (Element.length_map_ofBlock_cut ..))

/-- Packed elements are unpacked as they were.  In place, any slots with room for them will do; as
for every array, it is understood that their number is a word.  A new array holds them behind its
zeros, provided that it can exist. -/
theorem unpack_packed (values : List (Element t)) (arrayStart byteStart destStart len : Nat) :
    (∀ (buffer packed : List UInt8) (slots : List (Element t)),
      slots.length < AddressSpace.wordLimit →
      packInto values arrayStart buffer byteStart len = .done packed →
      destStart + len ≤ slots.length →
      ∃ filled, unpackInto packed byteStart slots destStart len = .done filled ∧
        ∀ i < len, ∃ v, values[arrayStart + i]? = some v ∧ filled[destStart + i]? = some v) ∧
    ∀ packed : List UInt8, pack values arrayStart byteStart len = .ok packed →
      (destStart + len) * t.width ≤ AddressSpace.allocationLimit →
      unpack t packed byteStart destStart len =
        .ok (List.replicate destStart (Element.zero t) ++ (values.drop arrayStart).take len) := by
  constructor
  · intro buffer packed slots slotsWord done room
    obtain ⟨array, bytes, rfl⟩ := fits_of_packInto_eq_done done
    have count := length_take_drop array.inside
    refine ⟨splice slots destStart ((values.drop arrayStart).take len), ?_, ?_⟩
    · exact unpackInto_splice count bytes ⟨by omega, room⟩
    · intro i hi
      have inside : arrayStart + i < values.length := by
        have := array.inside
        omega
      refine ⟨values[arrayStart + i], List.getElem?_eq_getElem inside, ?_⟩
      rw [getElem?_splice_add (by rwa [count]) (by rwa [count]), List.getElem?_take_of_lt hi,
        List.getElem?_drop, List.getElem?_eq_getElem inside]
  · intro packed ok room
    obtain ⟨array, size, rfl⟩ := fits_of_pack_eq_ok ok
    have limit := AddressSpace.allocationLimit_lt_wordLimit
    have count := length_take_drop array.inside
    have source : Window.Fits (List.replicate byteStart 0 ++
        ((values.drop arrayStart).take len).flatMap Element.toBytes).length byteStart
        (len * t.width) := by
      rw [List.length_append, List.length_replicate, Element.length_flatMap_toBytes, count]
      exact ⟨by omega, Nat.le_refl _⟩
    have few : destStart + len ≤ (destStart + len) * t.width :=
      Nat.le_mul_of_pos_right _ t.width_pos
    have behind : (List.replicate byteStart 0 ++
        ((values.drop arrayStart).take len).flatMap Element.toBytes).drop byteStart =
        ((values.drop arrayStart).take len).flatMap Element.toBytes ++ [] := by
      rw [List.drop_left' List.length_replicate, List.append_nil]
    have read := Element.map_ofBlock_cut_flatMap ((values.drop arrayStart).take len) []
    rw [count] at read
    rw [unpack_eq, if_pos source, if_pos (by omega), if_pos room, behind, read]

/-- A not-a-number with a payload and a negative zero keep all their bits. -/
theorem unpack_packed_nan :
    (packInto (t := .float32) [⟨0x3F800000⟩, ⟨0xFFA00001⟩, ⟨0x80000000⟩] 1
        [7, 7, 7, 7, 7, 7, 7, 7, 7, 7] 1 2 = .done [7, 0xFF, 0xA0, 0, 1, 0x80, 0, 0, 0, 7] ∧
      ∃ filled, unpackInto (t := .float32) [7, 0xFF, 0xA0, 0, 1, 0x80, 0, 0, 0, 7] 1
          [⟨5⟩, ⟨5⟩, ⟨5⟩, ⟨5⟩] 1 2 = .done filled ∧
        ∀ i < 2, ∃ v : Element .float32,
          [⟨0x3F800000⟩, ⟨0xFFA00001⟩, ⟨0x80000000⟩][1 + i]? = some v ∧ filled[1 + i]? = some v) ∧
    pack (t := .float32) [⟨0x3F800000⟩, ⟨0xFFA00001⟩, ⟨0x80000000⟩] 1 1 2 =
      .ok [0, 0xFF, 0xA0, 0, 1, 0x80, 0, 0, 0] ∧
    unpack .float32 [0, 0xFF, 0xA0, 0, 1, 0x80, 0, 0, 0] 1 1 2 =
      .ok [⟨0⟩, ⟨0xFFA00001⟩, ⟨0x80000000⟩] := by
  have law := unpack_packed (t := .float32) [⟨0x3F800000⟩, ⟨0xFFA00001⟩, ⟨0x80000000⟩] 1 1 1 2
  refine ⟨⟨by decide, ?_⟩, by decide, ?_⟩
  · exact law.1 [7, 7, 7, 7, 7, 7, 7, 7, 7, 7] _ _ (by decide) (by decide) (by decide)
  · exact law.2 _ (by decide) (by decide)

/-- Bytes that were unpacked are packed again as they were: behind zeros in a new buffer that can
exist, and in place, where they change nothing.  So windows that unpack to the same elements hold
the same bytes. -/
theorem pack_unpacked {bytes : List UInt8} {byteStart destStart len : Nat}
    {unpacked : List (Element t)} (h : unpack t bytes byteStart destStart len = .ok unpacked) :
    (∀ outStart, outStart + len * t.width ≤ AddressSpace.allocationLimit →
      pack unpacked destStart outStart len =
        .ok (List.replicate outStart 0 ++ (bytes.drop byteStart).take (len * t.width))) ∧
    packInto unpacked destStart bytes byteStart len = .done bytes ∧
    ∀ (others : List UInt8) (otherByteStart otherDestStart : Nat) (same : List (Element t)),
      unpack t others otherByteStart otherDestStart len = .ok same →
      (same.drop otherDestStart).take len = (unpacked.drop destStart).take len →
      (others.drop otherByteStart).take (len * t.width) =
        (bytes.drop byteStart).take (len * t.width) := by
  obtain ⟨source, word, rfl⟩ := fits_of_unpack_eq_ok h
  have limit := AddressSpace.allocationLimit_lt_wordLimit
  have array : Window.Fits (List.replicate destStart (Element.zero t) ++
      (Blocks.cut t.width len (bytes.drop byteStart)).map (Element.ofBlock t)).length
      destStart len := by
    rw [List.length_append, List.length_replicate, List.length_map, Blocks.length_cut]
    exact ⟨word, Nat.le_refl _⟩
  refine ⟨?_, ?_, ?_⟩
  · intro outStart room
    rw [pack_eq, if_pos array, if_pos (by omega), if_pos room, take_drop_unpacked,
      flatMap_toBytes_of_window source]
  · rw [packInto_eq, if_pos array, if_pos source, take_drop_unpacked,
      flatMap_toBytes_of_window source, splice_take_drop source.inside]
  · intro others otherByteStart otherDestStart same ok equal
    obtain ⟨otherSource, -, rfl⟩ := fits_of_unpack_eq_ok ok
    rw [take_drop_unpacked, take_drop_unpacked] at equal
    rw [← flatMap_toBytes_of_window source, ← flatMap_toBytes_of_window otherSource, equal]

/-- The same patterns, read from the middle of a buffer and written back. -/
theorem pack_unpacked_nan :
    unpack .float32 [7, 0xFF, 0xA0, 0, 1, 0x80, 0, 0, 0, 7] 1 1 2 =
      .ok [⟨0⟩, ⟨0xFFA00001⟩, ⟨0x80000000⟩] ∧
    pack (t := .float32) [⟨0⟩, ⟨0xFFA00001⟩, ⟨0x80000000⟩] 1 3 2 =
      .ok [0, 0, 0, 0xFF, 0xA0, 0, 1, 0x80, 0, 0, 0] ∧
    packInto (t := .float32) [⟨0⟩, ⟨0xFFA00001⟩, ⟨0x80000000⟩] 1
      [7, 0xFF, 0xA0, 0, 1, 0x80, 0, 0, 0, 7] 1 2 =
        .done [7, 0xFF, 0xA0, 0, 1, 0x80, 0, 0, 0, 7] ∧
    unpack .float32 [0xFF, 0xA0, 0, 1, 0x80, 0, 0, 0, 9] 0 0 2 =
      .ok [⟨0xFFA00001⟩, ⟨0x80000000⟩] ∧
    ([0xFF, 0xA0, 0, 1, 0x80, 0, 0, 0, 9].drop 0).take 8 =
      (([7, 0xFF, 0xA0, 0, 1, 0x80, 0, 0, 0, 7] : List UInt8).drop 1).take 8 := by
  have ok : unpack .float32 [7, 0xFF, 0xA0, 0, 1, 0x80, 0, 0, 0, 7] 1 1 2 =
      .ok [⟨0⟩, ⟨0xFFA00001⟩, ⟨0x80000000⟩] := by decide
  have other : unpack .float32 [0xFF, 0xA0, 0, 1, 0x80, 0, 0, 0, 9] 0 0 2 =
      .ok [⟨0xFFA00001⟩, ⟨0x80000000⟩] := by decide
  obtain ⟨fresh, inPlace, windows⟩ := pack_unpacked ok
  exact ⟨ok, fresh 3 (by decide), inPlace, other, windows _ 0 0 _ other (by decide)⟩

end BytePacking
