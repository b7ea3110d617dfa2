import BytePacking.Proofs.Endings
import BytePacking.Proofs.Radix

/-!
# What an operation in place leaves, place by place

A destination is described by what it holds at each of its places.  Behind a successful operation
the places of the window hold what was read from the other side, each from the run of bytes or the
element that belongs to it, and all other places hold what they held before.

Unpacking puts into each slot of the window the number that its own bytes stand for, as a sum of
powers of 256 (`slots_of_unpackInto`).  Packing puts at each byte of the window one digit of the
pattern of one element (`bytes_of_packInto`).  Nothing is assumed of the offsets: the window may
begin in the middle of an element that was packed before, and the bytes behind it may be none or too
few for another one.
-/

set_option autoImplicit false

namespace BytePacking

variable {t : ElementType}

/-- A window of blocks is cut into as many blocks as were asked for, and nothing is left over. -/
theorem Window.blocks_slice_ofFits {width start len : Nat} (pos : 0 < width) {xs : List UInt8}
    (h : Fits xs.length start (len * width)) :
    (Blocks.whole width ((ofFits h).slice xs)).length = len ∧
      Blocks.rest width ((ofFits h).slice xs) = [] := by
  have length : ((ofFits h).slice xs).length = len * width := by
    rw [length_slice, stop_ofFits, start_ofFits, Nat.add_sub_cancel_left]
  constructor
  · rw [Blocks.length_whole, length, Nat.mul_div_cancel _ pos]
  · rw [Blocks.rest, length, Nat.mul_div_cancel _ pos]
    exact List.drop_eq_nil_of_le (Nat.le_of_eq length)

/-- The slots that were filled hold the numbers of their bytes, and the others hold what they held.
There are as many blocks of bytes as slots to fill, so that the walk over both leaves out neither a
block nor a slot. -/
theorem slots_of_unpackInto {bytes : List UInt8} {byteStart destStart len : Nat}
    {dest filled : List (Element t)}
    (h : unpackInto bytes byteStart dest destStart len = .done filled) :
    filled.length = dest.length ∧
    (byteStart + len * t.width ≤ bytes.length ∧
      ∀ i < len, ∃ v, filled[destStart + i]? = some v ∧
        v.bits.toNat = ∑ j ∈ Finset.range t.width,
          (bytes.getD (byteStart + i * t.width + j) 0).toNat * 256 ^ (t.width - 1 - j)) ∧
    (∀ p, p < destStart ∨ destStart + len ≤ p → filled[p]? = dest[p]?) ∧
    ∃ source target, Window.checkBlocks t.width bytes.length byteStart len = .ok source ∧
      Window.check .elements dest.length destStart len = .ok target ∧
      (Blocks.whole t.width (source.slice bytes)).length = len ∧
      Blocks.rest t.width (source.slice bytes) = [] ∧ (target.slice dest).length = len := by
  obtain ⟨source, slots, rfl⟩ := fits_of_unpackInto_eq_done h
  have count := Element.length_map_ofBlock_cut (t := t) len (bytes.drop byteStart)
  have room := slots.inside
  rw [← count] at room
  refine ⟨length_splice room, ⟨source.inside, ?_⟩, ?_, ?_⟩
  · intro i hi
    obtain ⟨v, item, bits⟩ := Element.getElem?_window_eq_sum source.inside hi
    refine ⟨v, ?_, bits⟩
    rw [getElem?_splice_add room (by rwa [count]), item]
  · intro p outside
    apply getElem?_splice_of_outside room
    rwa [count]
  · obtain ⟨blocks, rest⟩ := Window.blocks_slice_ofFits t.width_pos source
    refine ⟨_, _, Window.checkBlocks_of_fits source, Window.check_of_fits slots, blocks, rest, ?_⟩
    rw [Window.length_slice, Window.stop_ofFits, Window.start_ofFits, Nat.add_sub_cancel_left]

/-- Two numbers of sixteen bits from an odd byte on, the second of them beyond half of the range,
into the middle of an array. -/
theorem slots_of_unpackInto_int16 :
    unpackInto (t := .int16) [7, 1, 2, 0xFF, 0x80, 9] 1 [⟨5⟩, ⟨5⟩, ⟨5⟩, ⟨5⟩] 1 2 =
        .done [⟨5⟩, ⟨0x0102⟩, ⟨0xFF80⟩, ⟨5⟩] ∧
      (∃ v : Element .int16, [⟨5⟩, ⟨0x0102⟩, ⟨0xFF80⟩, ⟨5⟩][1 + 1]? = some v ∧
        v.bits.toNat = 255 * 256 + 128) ∧
      ([⟨5⟩, ⟨0x0102⟩, ⟨0xFF80⟩, ⟨5⟩] : List (Element .int16))[3]? = some ⟨5⟩ := by
  have done : unpackInto (t := .int16) [7, 1, 2, 0xFF, 0x80, 9] 1 [⟨5⟩, ⟨5⟩, ⟨5⟩, ⟨5⟩] 1 2 =
      .done [⟨5⟩, ⟨0x0102⟩, ⟨0xFF80⟩, ⟨5⟩] := by decide
  obtain ⟨-, ⟨-, filled⟩, kept, -⟩ := slots_of_unpackInto done
  exact ⟨done, filled 1 (by decide), kept 3 (by decide)⟩

/-- The bytes that were written are the digits of the patterns, most significant first, and the
others are what they were.  The pattern of an element is its number, in two's complement where that
is negative. -/
theorem bytes_of_packInto {values : List (Element t)} {arrayStart byteStart len : Nat}
    {dest packed : List UInt8}
    (h : packInto values arrayStart dest byteStart len = .done packed) :
    packed.length = dest.length ∧
    (∀ i < len, ∃ v, values[arrayStart + i]? = some v ∧
      (v.bits.toNat : Int) = v.toInt % 256 ^ t.width ∧
      ∀ j < t.width, ∃ b, packed[byteStart + i * t.width + j]? = some b ∧
        b.toNat = v.bits.toNat / 256 ^ (t.width - 1 - j) % 256) ∧
    ∀ p, p < byteStart ∨ byteStart + len * t.width ≤ p → packed[p]? = dest[p]? := by
  obtain ⟨array, bytes, rfl⟩ := fits_of_packInto_eq_done h
  have count : (((values.drop arrayStart).take len).flatMap Element.toBytes).length =
      len * t.width := by
    rw [Element.length_flatMap_toBytes, length_take_drop array.inside]
  have room := bytes.inside
  rw [← count] at room
  refine ⟨length_splice room, ?_, ?_⟩
  · intro i hi
    have inside : arrayStart + i < values.length := by
      have := array.inside
      omega
    have found : values[arrayStart + i]? = some values[arrayStart + i] :=
      List.getElem?_eq_getElem inside
    refine ⟨_, found, Element.toNat_bits_eq_toInt_emod _, ?_⟩
    intro j hj
    have behind : i * t.width + t.width ≤ len * t.width := t.mul_width_add_width_le hi
    obtain ⟨b, digit, quotient⟩ :=
      Element.getElem?_flatMap_eq_quotient ((getElem?_take_drop hi).trans found) hj
    refine ⟨b, ?_, quotient⟩
    rw [Nat.add_assoc, getElem?_splice_add room (by rw [count]; omega), digit]
  · intro p outside
    apply getElem?_splice_of_outside room
    rwa [count]

/-- A negative number of sixteen bits behind another one, written up to the end of a buffer; and the
first of them alone, with one byte behind it. -/
theorem bytes_of_packInto_int16 :
    packInto (t := .int16) [⟨3⟩, ⟨0x0102⟩, ⟨0xFF80⟩] 1 [7, 7, 7, 7, 7] 1 2 =
        .done [7, 1, 2, 0xFF, 0x80] ∧
      (∃ v : Element .int16, [⟨3⟩, ⟨0x0102⟩, ⟨0xFF80⟩][1 + 1]? = some v ∧
        (v.bits.toNat : Int) = v.toInt % 256 ^ 2 ∧
        ∀ j < 2, ∃ b : UInt8, [7, 1, 2, 0xFF, 0x80][1 + 1 * 2 + j]? = some b ∧
          b.toNat = v.bits.toNat / 256 ^ (2 - 1 - j) % 256) ∧
      packInto (t := .int16) [⟨0x0102⟩] 0 [7, 7, 7, 7] 1 1 = .done [7, 1, 2, 7] ∧
      ([7, 1, 2, 7] : List UInt8)[3]? = some 7 := by
  have toEnd : packInto (t := .int16) [⟨3⟩, ⟨0x0102⟩, ⟨0xFF80⟩] 1 [7, 7, 7, 7, 7] 1 2 =
      .done [7, 1, 2, 0xFF, 0x80] := by decide
  have within : packInto (t := .int16) [⟨0x0102⟩] 0 [7, 7, 7, 7] 1 1 = .done [7, 1, 2, 7] := by
    decide
  exact ⟨toEnd, (bytes_of_packInto toEnd).2.1 1 (by decide), within,
    (bytes_of_packInto within).2.2 3 (by decide)⟩

end BytePacking
