import BytePacking.Proofs.Radix
import BytePacking.Proofs.RoundTrip

/-!
# What the types have in common

The ten types are packed by ten operations, which have nothing to do with each other but for the
bit patterns of their elements.  To these it does not matter what a type makes of them: types of one
width are unpacked to the same patterns, and elements with the same patterns are packed to the same
bytes (`patterns_unpack`, `packInto_eq_of_patterns`).  A number with a sign is therefore the number
without one, less the number of patterns where the first bit is set (`toInt_eq_of_twosComplement`).

One element of a type that is twice as wide as another takes the bytes of two.  Where the one is
unpacked the two are, from the same bytes; the first of the two is the upper half and the second the
lower half of the one (`halves_of_unpack`).

All of this is `conversions_follow_bit_patterns`.
-/

set_option autoImplicit false

namespace BytePacking

/-! ## Patterns -/

namespace Element

variable {t t' : ElementType}

/-- The bit patterns of some elements, as numbers. -/
def patterns (vs : List (Element t)) : List Nat := vs.map fun v => v.bits.toNat

/-- Every element has one pattern. -/
@[simp] theorem length_patterns (vs : List (Element t)) : (patterns vs).length = vs.length :=
  List.length_map _

/-- Patterns may be taken list by list. -/
theorem patterns_append (vs ws : List (Element t)) :
    patterns (vs ++ ws) = patterns vs ++ patterns ws :=
  List.map_append

/-- The patterns of a range are that range of the patterns. -/
theorem patterns_take_drop (vs : List (Element t)) (start count : Nat) :
    patterns ((vs.drop start).take count) = ((patterns vs).drop start).take count := by
  rw [patterns, patterns, List.map_take, List.map_drop]

/-- The pattern of zero is zero. -/
theorem patterns_replicate_zero (t : ElementType) (count : Nat) :
    patterns (List.replicate count (zero t)) = List.replicate count 0 := by
  simp [patterns, zero]

/-- The pattern of an element depends on its block, and on no more of its type than the width. -/
theorem patterns_map_ofBlock (blocks : List (List UInt8)) :
    patterns (blocks.map (ofBlock t)) =
      blocks.map fun block => Positional.value block % Positional.weight t.width := by
  rw [patterns, List.map_map]
  apply List.map_congr_left
  intro block _
  exact Positional.toNat_ofNat_eq_mod_weight ..

/-- The bytes of some elements are the digits of their patterns. -/
theorem flatMap_toBytes_eq_digits (vs : List (Element t)) :
    vs.flatMap toBytes = (patterns vs).flatMap (Positional.digits t.width) := by
  rw [patterns, List.flatMap_map]
  rfl

/-- With the same pattern, a number with a sign and a number without one differ by the number of
patterns if the first bit is set, and not at all otherwise. -/
theorem toInt_eq_of_twosComplement {v : Element t} {w : Element t'} (width : t.width = t'.width)
    (signed : t.encoding = .twosComplement) (unsigned : t'.encoding = .unsigned)
    (same : v.bits.toNat = w.bits.toNat) :
    v.toInt = if w.bits.msb then w.toInt - 2 ^ (8 * t.width) else w.toInt := by
  have first : v.bits.msb = w.bits.msb := by
    rw [BitVec.msb_eq_decide, BitVec.msb_eq_decide, same, width]
  rw [toInt_of_twosComplement signed, toInt_of_unsigned unsigned, first, same]

end Element

/-! ## Types of one width -/

section OneWidth

variable {t t' : ElementType}

/-- Unpacking gives the numbers of the blocks for patterns, whatever the type is. -/
theorem patterns_unpack (bytes : List UInt8) (byteStart destStart len : Nat) :
    Element.patterns <$> unpack t bytes byteStart destStart len =
      if Window.Fits bytes.length byteStart (len * t.width) then
        if destStart + len < AddressSpace.wordLimit then
          if (destStart + len) * t.width ≤ AddressSpace.allocationLimit then
            .ok (List.replicate destStart 0 ++
              (Blocks.cut t.width len (bytes.drop byteStart)).map fun block =>
                Positional.value block % Positional.weight t.width)
          else .trap
        else .error ⟨.elements, .overflow⟩
      else .error (Window.refusal .bytes bytes.length byteStart (len * t.width)) := by
  simp only [unpack_eq, apply_ite (Element.patterns <$> ·), Outcome.map_ok, Outcome.map_error,
    Outcome.map_trap, Element.patterns_append, Element.patterns_replicate_zero,
    Element.patterns_map_ofBlock]

/-- Two types of one width are unpacked from the same bytes with the same patterns, or the same
error. -/
theorem patterns_unpack_eq_of_width_eq (width : t.width = t'.width) (bytes : List UInt8)
    (byteStart destStart len : Nat) :
    Element.patterns <$> unpack t bytes byteStart destStart len =
      Element.patterns <$> unpack t' bytes byteStart destStart len := by
  rw [patterns_unpack, patterns_unpack, width]

/-- Each number with a sign is found from the number without one at the same place. -/
theorem toInt_of_unpack {bytes : List UInt8} {byteStart destStart len i : Nat}
    {vs : List (Element t)} {ws : List (Element t')} {v : Element t} {w : Element t'}
    (width : t.width = t'.width) (signed : t.encoding = .twosComplement)
    (unsigned : t'.encoding = .unsigned) (ok : unpack t bytes byteStart destStart len = .ok vs)
    (ok' : unpack t' bytes byteStart destStart len = .ok ws) (hv : vs[i]? = some v)
    (hw : ws[i]? = some w) :
    v.toInt = if w.bits.msb then w.toInt - 2 ^ (8 * t.width) else w.toInt := by
  have same := patterns_unpack_eq_of_width_eq width bytes byteStart destStart len
  rw [ok, ok', Outcome.map_ok, Outcome.map_ok, Outcome.ok.injEq] at same
  have pattern : (Element.patterns vs)[i]? = (Element.patterns ws)[i]? := by rw [same]
  rw [Element.patterns, Element.patterns, List.getElem?_map, List.getElem?_map, hv, hw,
    Option.map_some, Option.map_some, Option.some.injEq] at pattern
  exact Element.toInt_eq_of_twosComplement width signed unsigned pattern

/-- Elements with the same patterns are packed to the same bytes. -/
theorem packInto_eq_of_patterns {values : List (Element t)} {values' : List (Element t')}
    (width : t.width = t'.width) (same : Element.patterns values = Element.patterns values')
    (arrayStart : Nat) (dest : List UInt8) (byteStart len : Nat) :
    packInto values arrayStart dest byteStart len =
      packInto values' arrayStart dest byteStart len := by
  have length : values.length = values'.length := by
    rw [← Element.length_patterns, same, Element.length_patterns]
  rw [packInto_eq, packInto_eq, Element.flatMap_toBytes_eq_digits,
    Element.flatMap_toBytes_eq_digits, Element.patterns_take_drop, Element.patterns_take_drop,
    same, length, width]

end OneWidth

/-! ## Types that are twice as wide as others -/

section TwiceAsWide

variable {wide narrow : ElementType} {bytes : List UInt8} {byteStart n : Nat}

/-- Of a run of bytes the second half counts as it is, and the first half with the weight of as many
bytes behind it. -/
theorem Positional.value_halves {bs : List UInt8} {start width : Nat}
    (inside : start + 2 * width ≤ bs.length) :
    value ((bs.drop start).take (2 * width)) =
      value ((bs.drop start).take width) * 256 ^ width +
        value ((bs.drop (start + width)).take width) := by
  have second : ((bs.drop (start + width)).take width).length = width :=
    length_take_drop (by omega)
  rw [Nat.two_mul, List.take_add, List.drop_drop, value_append, second, weight_eq_pow]

/-- Half as many elements of twice the width take the same bytes. -/
theorem mul_width_eq (double : wide.width = 2 * narrow.width) (n : Nat) :
    n * wide.width = 2 * n * narrow.width := by
  rw [double, Nat.mul_left_comm, Nat.mul_assoc]

/-- Elements are refused for the reason for which twice as many halves of them are, and have no
array where these have none. -/
theorem unpack_twice_as_wide (double : wide.width = 2 * narrow.width) (bytes : List UInt8)
    (byteStart n : Nat) :
    (fun _ => ()) <$> unpack wide bytes byteStart 0 n =
      (fun _ => ()) <$> unpack narrow bytes byteStart 0 (2 * n) := by
  have size := mul_width_eq double n
  rw [unpack_eq, unpack_eq, Nat.zero_add, Nat.zero_add, ← size]
  by_cases source : Window.Fits bytes.length byteStart (n * wide.width)
  · -- There are no more elements of either width than bytes, so both numbers are words.
    have word := source.word
    have few : n ≤ n * wide.width := wide.le_mul_width n
    have fewHalves : 2 * n ≤ n * wide.width := by
      rw [size]
      exact narrow.le_mul_width _
    simp only [if_pos source, if_pos (show n < AddressSpace.wordLimit by omega),
      if_pos (show 2 * n < AddressSpace.wordLimit by omega)]
    split
    · rfl
    · rfl
  · rw [if_neg source, if_neg source]
    rfl

/-- Each element is made of two halves, the upper one first. -/
theorem halves_of_unpack (double : wide.width = 2 * narrow.width)
    {us : List (Element wide)} {vs : List (Element narrow)}
    (ok : unpack wide bytes byteStart 0 n = .ok us)
    (ok' : unpack narrow bytes byteStart 0 (2 * n) = .ok vs) {i : Nat} (hi : i < n) :
    ∃ u upper lower, us[i]? = some u ∧ vs[2 * i]? = some upper ∧ vs[2 * i + 1]? = some lower ∧
      u.bits.toNat = upper.bits.toNat * 256 ^ narrow.width + lower.bits.toNat := by
  obtain ⟨source, -, rfl⟩ := fits_of_unpack_eq_ok ok
  obtain ⟨-, -, rfl⟩ := fits_of_unpack_eq_ok ok'
  have inside := source.inside
  have enough : n * wide.width ≤ (bytes.drop byteStart).length := by
    rw [List.length_drop]
    omega
  have enoughHalves : 2 * n * narrow.width ≤ (bytes.drop byteStart).length := by
    rwa [← mul_width_eq double]
  obtain ⟨u, hu, whole⟩ := Element.getElem?_map_ofBlock_cut enough hi
  obtain ⟨upper, hupper, first⟩ :=
    Element.getElem?_map_ofBlock_cut enoughHalves (show 2 * i < 2 * n by omega)
  obtain ⟨lower, hlower, second⟩ :=
    Element.getElem?_map_ofBlock_cut enoughHalves (show 2 * i + 1 < 2 * n by omega)
  refine ⟨u, upper, lower, hu, hupper, hlower, ?_⟩
  have behind : i * wide.width + wide.width ≤ n * wide.width := wide.mul_width_add_width_le hi
  have place : (2 * i + 1) * narrow.width = i * wide.width + narrow.width := by
    rw [Nat.add_mul, Nat.one_mul, mul_width_eq double]
  rw [whole, first, second, place, ← mul_width_eq double, double]
  rw [double] at enough behind
  exact Positional.value_halves (by omega)

/-- Elements that were unpacked are packed to the bytes of their window. -/
theorem packAll_of_unpack_eq_ok {t : ElementType} {vs : List (Element t)}
    (ok : unpack t bytes byteStart 0 n = .ok vs) :
    (packAll vs : Outcome RangeError (List UInt8)) =
      .ok ((bytes.drop byteStart).take (n * t.width)) := by
  have room := room_of_unpack_eq_ok ok
  obtain ⟨source, -, rfl⟩ := fits_of_unpack_eq_ok ok
  rw [Nat.zero_add] at room
  rw [List.replicate_zero, List.nil_append,
    packAll_eq_ok (by rwa [Element.length_map_ofBlock_cut]), flatMap_toBytes_of_window source]

end TwiceAsWide

/-! ## All types -/

/-- What is unpacked and packed are bit patterns, and a type has no influence but by its width.

Types of one width are unpacked with the same outcome, an error or a trap included, and to the same
patterns; so a number with a sign is the one without, less the number of patterns exactly if the
first bit is set.  Elements with the same patterns are packed with the same outcome and to the same
bytes.

An element of a type that is twice as wide as another is made of two of the other, the upper half
before the lower.  It can be unpacked where these can, and is refused for the same reason where they
are; and both are packed to the bytes that they were unpacked from. -/
theorem conversions_follow_bit_patterns :
    -- Types of one width.
    (∀ t t' : ElementType, t.width = t'.width →
      (∀ (bytes : List UInt8) (byteStart destStart len : Nat),
        Element.patterns <$> unpack t bytes byteStart destStart len =
            Element.patterns <$> unpack t' bytes byteStart destStart len ∧
          (t.encoding = .twosComplement → t'.encoding = .unsigned →
            ∀ (vs : List (Element t)) (ws : List (Element t')),
            unpack t bytes byteStart destStart len = .ok vs →
            unpack t' bytes byteStart destStart len = .ok ws →
            ∀ (i : Nat) (v : Element t) (w : Element t'), vs[i]? = some v → ws[i]? = some w →
              v.toInt = if w.bits.msb then w.toInt - 2 ^ (8 * t.width) else w.toInt)) ∧
      ∀ (values : List (Element t)) (values' : List (Element t')),
        Element.patterns values = Element.patterns values' →
        ∀ (arrayStart : Nat) (dest : List UInt8) (byteStart len : Nat),
          packInto values arrayStart dest byteStart len =
            packInto values' arrayStart dest byteStart len) ∧
    -- Types that are twice as wide as others.
    ∀ wide narrow : ElementType, wide.width = 2 * narrow.width →
      ∀ (bytes : List UInt8) (byteStart n : Nat),
        ((∃ us, unpack wide bytes byteStart 0 n = .ok us) ↔
          ∃ vs, unpack narrow bytes byteStart 0 (2 * n) = .ok vs) ∧
        (∀ e, unpack wide bytes byteStart 0 n = .error e ↔
          unpack narrow bytes byteStart 0 (2 * n) = .error e) ∧
        ∀ (us : List (Element wide)) (vs : List (Element narrow)),
          unpack wide bytes byteStart 0 n = .ok us →
          unpack narrow bytes byteStart 0 (2 * n) = .ok vs →
          (∀ i < n, ∃ u upper lower,
            us[i]? = some u ∧ vs[2 * i]? = some upper ∧ vs[2 * i + 1]? = some lower ∧
              u.bits.toNat = upper.bits.toNat * 256 ^ narrow.width + lower.bits.toNat ∧
              (wide.encoding = .unsigned → narrow.encoding = .unsigned →
                u.toInt = upper.toInt * 256 ^ narrow.width + lower.toInt)) ∧
          ∃ packed, (packAll us : Outcome RangeError (List UInt8)) = .ok packed ∧
            (packAll vs : Outcome RangeError (List UInt8)) = .ok packed := by
  constructor
  · intro t t' width
    constructor
    · intro bytes byteStart destStart len
      refine ⟨patterns_unpack_eq_of_width_eq width bytes byteStart destStart len, ?_⟩
      intro signed unsigned vs ws ok ok' i v w hv hw
      exact toInt_of_unpack width signed unsigned ok ok' hv hw
    · intro values values' same arrayStart dest byteStart len
      exact packInto_eq_of_patterns width same arrayStart dest byteStart len
  · intro wide narrow double bytes byteStart n
    have ends := unpack_twice_as_wide double bytes byteStart n
    refine ⟨?_, ?_, ?_⟩
    · rw [Outcome.exists_eq_ok_iff_map, ends, ← Outcome.exists_eq_ok_iff_map]
    · intro e
      rw [← Outcome.map_eq_error_iff, ends, Outcome.map_eq_error_iff]
    · intro us vs ok ok'
      constructor
      · intro i hi
        obtain ⟨u, upper, lower, hu, hupper, hlower, pattern⟩ := halves_of_unpack double ok ok' hi
        refine ⟨u, upper, lower, hu, hupper, hlower, pattern, ?_⟩
        intro unsigned unsignedHalves
        rw [Element.toInt_of_unsigned unsigned, Element.toInt_of_unsigned unsignedHalves,
          Element.toInt_of_unsigned unsignedHalves, pattern]
        push_cast
        rfl
      · refine ⟨_, packAll_of_unpack_eq_ok ok, ?_⟩
        rw [mul_width_eq double]
        exact packAll_of_unpack_eq_ok ok'

/-- Minus 128 and 65408, unpacked from the same bytes with and without a sign, and the two bytes that
65408 is made of. -/
theorem conversions_follow_bit_patterns_uint16 :
    unpack .int16 [9, 0xFF, 0x80, 0, 5] 1 0 2 = .ok [⟨0xFF80⟩, ⟨5⟩] ∧
      unpack .uint16 [9, 0xFF, 0x80, 0, 5] 1 0 2 = .ok [⟨0xFF80⟩, ⟨5⟩] ∧
      unpack .uint8 [9, 0xFF, 0x80, 0, 5] 1 0 (2 * 2) = .ok [⟨0xFF⟩, ⟨0x80⟩, ⟨0⟩, ⟨5⟩] ∧
      (⟨0xFF80⟩ : Element .int16).toInt =
        (if (⟨0xFF80⟩ : Element .uint16).bits.msb then
          (⟨0xFF80⟩ : Element .uint16).toInt - 2 ^ (8 * ElementType.int16.width)
        else (⟨0xFF80⟩ : Element .uint16).toInt) ∧
      packInto (t := .int16) [⟨0xFF80⟩] 0 [7, 7, 7] 1 1 =
        packInto (t := .uint16) [⟨0xFF80⟩] 0 [7, 7, 7] 1 1 ∧
      ∃ u upper lower, ([⟨0xFF80⟩, ⟨5⟩] : List (Element .uint16))[0]? = some u ∧
        ([⟨0xFF⟩, ⟨0x80⟩, ⟨0⟩, ⟨5⟩] : List (Element .uint8))[2 * 0]? = some upper ∧
        ([⟨0xFF⟩, ⟨0x80⟩, ⟨0⟩, ⟨5⟩] : List (Element .uint8))[2 * 0 + 1]? = some lower ∧
        u.toInt = upper.toInt * 256 ^ ElementType.uint8.width + lower.toInt := by
  obtain ⟨oneWidth, twiceAsWide⟩ := conversions_follow_bit_patterns
  have signed : unpack .int16 [9, 0xFF, 0x80, 0, 5] 1 0 2 = .ok [⟨0xFF80⟩, ⟨5⟩] := by decide
  have unsigned : unpack .uint16 [9, 0xFF, 0x80, 0, 5] 1 0 2 = .ok [⟨0xFF80⟩, ⟨5⟩] := by decide
  have halves : unpack .uint8 [9, 0xFF, 0x80, 0, 5] 1 0 (2 * 2) =
      .ok [⟨0xFF⟩, ⟨0x80⟩, ⟨0⟩, ⟨5⟩] := by decide
  obtain ⟨unpacking, packing⟩ := oneWidth .int16 .uint16 rfl
  obtain ⟨-, -, made⟩ := twiceAsWide .uint16 .uint8 rfl [9, 0xFF, 0x80, 0, 5] 1 2
  obtain ⟨u, upper, lower, hu, hupper, hlower, -, number⟩ :=
    (made _ _ unsigned halves).1 0 Nat.two_pos
  have sign := (unpacking _ _ _ _).2 rfl rfl _ _ signed unsigned 0 _ _ rfl rfl
  exact ⟨signed, unsigned, halves, sign, packing _ _ rfl .., u, upper, lower, hu, hupper, hlower,
    number rfl rfl⟩

end BytePacking
