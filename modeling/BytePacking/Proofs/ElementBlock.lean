import BytePacking.Pack
import BytePacking.Proofs.Radix

/-!
# Elements and blocks of bytes

The elements of a type and the blocks of as many bytes as the type is wide are in one-to-one
correspondence: a block is the bytes of the element that it is read as, and of no other
(`Element.toBytes_eq_iff`).  No pattern is left out, so that a floating-point number is carried with
all of its bits.

The correspondence is the positional one.  The pattern of an element is the sum of the bytes of its
block, each times a power of 256 (`Element.toNat_bits_ofBlock_eq_sum`), and the sign of a number is
in the first of them (`Element.toInt_ofBlock_of_twosComplement`).
-/

set_option autoImplicit false

namespace BytePacking

namespace Element

variable {t : ElementType} {block : List UInt8}

/-- A block is the bytes of exactly one element, the one that it is read as. -/
theorem toBytes_eq_iff (h : block.length = t.width) {v : Element t} :
    v.toBytes = block ↔ v = ofBlock t block := by
  constructor
  · rintro rfl
    exact v.ofBlock_toBytes.symm
  · rintro rfl
    exact toBytes_ofBlock h

/-- The pattern of the element that a block is read as is the sum of its bytes, each times the power
of 256 that its place stands for. -/
theorem toNat_bits_ofBlock_eq_sum (h : block.length = t.width) :
    (ofBlock t block).bits.toNat = ∑ j ∈ Finset.range t.width,
      (block.getD j 0).toNat * 256 ^ (t.width - 1 - j) := by
  rw [toNat_bits_ofBlock h, Positional.value_eq_sum, h]

/-- Of a type with a sign, the blocks from 128 in the first byte on are the negative numbers. -/
theorem toInt_ofBlock_of_twosComplement (signed : t.encoding = .twosComplement)
    (h : block.length = t.width) :
    (ofBlock t block).toInt =
      if 128 ≤ (block.getD 0 0).toNat then
        ((ofBlock t block).bits.toNat : Int) - 2 ^ (8 * t.width)
      else (ofBlock t block).bits.toNat := by
  simp only [toInt_of_twosComplement signed, msb_bits_ofBlock h, decide_eq_true_eq]

end Element

/-- What the bytes of an element are.

Of the blocks that are as long as a type is wide, each is read as an element of the type.  The
pattern of this element is the sum of the bytes, each times a power of 256; of a type with a sign,
the element is that sum, less the number of patterns if the first byte is 128 or more.  It is the
only element with these bytes, and they are put in the place of any other such block.

The bytes of an element, which are those that it is packed to and that it puts in the place of
zeros, are read as this element.  A block of any other length is not read and not written over. -/
theorem elements_correspond_to_blocks {ε : Type} (t : ElementType) :
    (∀ block : List UInt8, block.length = t.width →
      ∃ v : Element t, (Element.ofBytes t block : Outcome ε (Element t)) = .ok v ∧
        v.bits.toNat = ∑ j ∈ Finset.range t.width,
          (block.getD j 0).toNat * 256 ^ (t.width - 1 - j) ∧
        (t.encoding = .twosComplement →
          v.toInt = if 128 ≤ (block.getD 0 0).toNat then
            (v.bits.toNat : Int) - 2 ^ (8 * t.width) else v.bits.toNat) ∧
        (t.encoding = .unsigned → v.toInt = v.bits.toNat) ∧
        (∀ w : Element t, w.toBytes = block ↔ w = v) ∧
        ∀ old : List UInt8, old.length = t.width →
          (v.overwrite old : Update ε (List UInt8)) = .done block) ∧
    (∀ v : Element t,
      (packOne v : Outcome ε (List UInt8)) = .ok v.toBytes ∧
        (Element.ofBytes t v.toBytes : Outcome ε (Element t)) = .ok v ∧
        (v.overwrite (List.replicate t.width 0) : Update ε (List UInt8)) = .done v.toBytes) ∧
    ∀ block : List UInt8, block.length ≠ t.width →
      (Element.ofBytes t block : Outcome ε (Element t)) = .trap ∧
        ∀ v : Element t, (v.overwrite block : Update ε (List UInt8)) = ⟨.trap, block⟩ := by
  refine ⟨?_, ?_, ?_⟩
  · intro block width
    refine ⟨.ofBlock t block, Element.ofBytes_of_length_eq width,
      Element.toNat_bits_ofBlock_eq_sum width,
      fun signed => Element.toInt_ofBlock_of_twosComplement signed width,
      Element.toInt_of_unsigned, fun w => Element.toBytes_eq_iff width, ?_⟩
    intro old oldWidth
    rw [Element.overwrite_of_length_eq _ oldWidth, Element.toBytes_ofBlock width]
  · intro v
    exact ⟨packOne_eq_ok v, v.ofBytes_toBytes, v.overwrite_of_length_eq List.length_replicate⟩
  · intro block other
    exact ⟨Element.ofBytes_of_length_ne other, fun v => v.overwrite_of_length_ne other⟩

/-- Two bytes with the first bit set, as a number with a sign; and three bytes, which are none. -/
theorem elements_correspond_to_blocks_int16 :
    (∃ v : Element .int16, (Element.ofBytes .int16 [0xFF, 0x80] : Outcome RangeError _) = .ok v ∧
      v.bits.toNat = 255 * 256 + 128 ∧ v.toInt = -128 ∧
      (v.overwrite [7, 9] : Update RangeError _) = .done [0xFF, 0x80]) ∧
    (Element.ofBytes .int16 [0xFF, 0x80, 0] : Outcome RangeError (Element .int16)) = .trap ∧
    ((⟨5⟩ : Element .int16).overwrite [7, 8, 9] : Update RangeError _) = ⟨.trap, [7, 8, 9]⟩ := by
  obtain ⟨blocks, -, others⟩ := @elements_correspond_to_blocks RangeError .int16
  obtain ⟨v, read, pattern, signed, -, -, written⟩ := blocks [0xFF, 0x80] rfl
  have sum : v.bits.toNat = 255 * 256 + 128 := pattern
  refine ⟨⟨v, read, sum, ?_, written [7, 9] rfl⟩, ?_⟩
  · rw [signed rfl, sum]
    decide
  · exact ⟨(others _ (by decide)).1, (others _ (by decide)).2 ⟨5⟩⟩

end BytePacking
