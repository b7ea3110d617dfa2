import BytePacking.Proofs.ElementList
import BytePacking.Proofs.Splice
import Mathlib.Algebra.BigOperators.Intervals

/-!
# Digits and powers of the base

A list of bytes stands for a sum with one term for each byte, the byte times a power of 256
(`Positional.value_eq_sum`), and each digit of a number is found by a division
(`Positional.getElem?_digits`).  Both are read off the recursions of `Positional.value` and
`Positional.digits`, whose first step is the most significant byte.

For elements in a buffer this says what each of them is, in terms of its own bytes
(`Element.getElem?_window_eq_sum`), and what each of their bytes is, in terms of the element
(`Element.getElem?_flatMap_eq_quotient`).
-/

set_option autoImplicit false

namespace BytePacking

namespace Positional

/-- The weight of a place is a power of 256. -/
theorem weight_eq_pow (count : Nat) : weight count = 256 ^ count := by
  induction count with
  | zero => rfl
  | succ count ih => rw [weight_succ, ih, Nat.pow_succ, Nat.mul_comm]

/-- Bytes that are put in front of others count as often as the weight of those says. -/
theorem value_append (xs ys : List UInt8) :
    value (xs ++ ys) = value xs * weight ys.length + value ys := by
  induction xs with
  | nil => simp
  | cons x xs ih =>
    have behind : weight (xs ++ ys).length = weight xs.length * weight ys.length := by
      rw [List.length_append, weight_eq_pow, weight_eq_pow, weight_eq_pow, Nat.pow_add]
    rw [List.cons_append, value_cons, value_cons, ih, behind, Nat.add_mul, Nat.mul_assoc,
      Nat.add_assoc]

/-- A list of bytes stands for the sum of its bytes, each times a power of 256 that is the higher
the fewer bytes come before it. -/
theorem value_eq_sum (bs : List UInt8) :
    value bs = ∑ j ∈ Finset.range bs.length,
      (bs.getD j 0).toNat * 256 ^ (bs.length - 1 - j) := by
  induction bs with
  | nil => rfl
  | cons b bs ih =>
    have behind (j : Nat) : bs.length - 1 - j = bs.length - (j + 1) := by omega
    rw [value_cons, weight_eq_pow, List.length_cons, Finset.sum_range_succ', ih, Nat.add_comm]
    simp only [List.getD_cons_succ, List.getD_cons_zero, behind, Nat.add_sub_cancel, Nat.sub_zero]

/-- The number that a run of bytes within a list stands for. -/
theorem value_take_drop {bs : List UInt8} {start width : Nat} (h : start + width ≤ bs.length) :
    value ((bs.drop start).take width) = ∑ j ∈ Finset.range width,
      (bs.getD (start + j) 0).toNat * 256 ^ (width - 1 - j) := by
  rw [value_eq_sum, length_take_drop h]
  apply Finset.sum_congr rfl
  intro j hj
  have inside : j < width := Finset.mem_range.1 hj
  rw [List.getD_eq_getElem?_getD, List.getD_eq_getElem?_getD, getElem?_take_drop inside]

/-- A number is in the upper half of its range exactly if its first byte is. -/
theorem half_weight_le_value_cons (b : UInt8) (bs : List UInt8) :
    128 * weight bs.length ≤ value (b :: bs) ↔ 128 ≤ b.toNat := by
  have behind := value_lt bs
  rw [value_cons]
  constructor
  · intro upper
    by_contra low
    have next : (b.toNat + 1) * weight bs.length ≤ 128 * weight bs.length :=
      Nat.mul_le_mul_right _ (by omega)
    rw [Nat.succ_mul] at next
    omega
  · intro high
    exact Nat.le_add_right_of_le (Nat.mul_le_mul_right _ high)

/-- A digit is what remains of the quotient by its weight in one byte. -/
theorem getElem?_digits {width j : Nat} (n : Nat) (h : j < width) :
    ∃ b, (digits width n)[j]? = some b ∧ b.toNat = n / 256 ^ (width - 1 - j) % 256 := by
  induction width generalizing j with
  | zero => omega
  | succ width ih =>
    cases j with
    | zero =>
      refine ⟨UInt8.ofNat (n / weight width), rfl, ?_⟩
      rw [← weight_eq_pow]
      exact UInt8.toNat_ofNat'
    | succ j =>
      obtain ⟨b, digit, quotient⟩ := ih (Nat.lt_of_succ_lt_succ h)
      have behind : width + 1 - 1 - (j + 1) = width - 1 - j := by omega
      exact ⟨b, digit, by rw [behind, quotient]⟩

end Positional

namespace Element

variable {t : ElementType}

/-- The bits of an element are those of its number, in two's complement where that is negative. -/
theorem toNat_bits_eq_toInt_emod (v : Element t) :
    (v.bits.toNat : Int) = v.toInt % 256 ^ t.width := by
  have patterns : (256 : Int) ^ t.width = ((2 ^ (8 * t.width) : Nat) : Int) := by
    rw [Nat.pow_mul]
    push_cast
    rfl
  have reduced : (v.bits.toNat : Int) % ((2 ^ (8 * t.width) : Nat) : Int) = v.bits.toNat :=
    Int.emod_eq_of_lt (Int.natCast_nonneg _) (Int.ofNat_lt.2 v.bits.isLt)
  rw [patterns, toInt]
  split
  · rw [BitVec.toInt_eq_toNat_bmod, Int.bmod_emod, reduced]
  · exact reduced.symm
  · exact reduced.symm

/-- A number without a sign is its pattern. -/
theorem toInt_of_unsigned {v : Element t} (unsigned : t.encoding = .unsigned) :
    v.toInt = v.bits.toNat := by
  rw [toInt, unsigned]

/-- A number with a sign is that of its pattern, less the number of patterns if the first bit is
set. -/
theorem toInt_of_twosComplement {v : Element t} (signed : t.encoding = .twosComplement) :
    v.toInt = if v.bits.msb then (v.bits.toNat : Int) - 2 ^ (8 * t.width) else v.bits.toNat := by
  rw [toInt, signed]
  dsimp only
  rw [BitVec.toInt_eq_msb_cond]
  push_cast
  rfl

/-- The first bit of an element is the first bit of its first byte. -/
theorem msb_bits_ofBlock {block : List UInt8} (h : block.length = t.width) :
    (ofBlock t block).bits.msb = decide (128 ≤ (block.getD 0 0).toNat) := by
  cases block with
  | nil => exact absurd h.symm (Nat.ne_of_gt t.width_pos)
  | cons b bs =>
    have half : 2 ^ (8 * t.width - 1) = 128 * Positional.weight bs.length := by
      have split : 8 * t.width - 1 = 7 + 8 * bs.length := by
        rw [← h, List.length_cons]
        omega
      rw [split, Nat.pow_add, Nat.pow_mul, Positional.weight_eq_pow]
    rw [BitVec.msb_eq_decide, half, toNat_bits_ofBlock h, List.getD_cons_zero]
    exact decide_eq_decide.2 (Positional.half_weight_le_value_cons b bs)

/-- Of the elements that are read from some byte on, each has the sum over its own bytes for a
pattern. -/
theorem getElem?_window_eq_sum {bytes : List UInt8} {byteStart len i : Nat}
    (inside : byteStart + len * t.width ≤ bytes.length) (hi : i < len) :
    ∃ v, ((Blocks.cut t.width len (bytes.drop byteStart)).map (ofBlock t))[i]? = some v ∧
      v.bits.toNat = ∑ j ∈ Finset.range t.width,
        (bytes.getD (byteStart + i * t.width + j) 0).toNat * 256 ^ (t.width - 1 - j) := by
  have behind : i * t.width + t.width ≤ len * t.width := t.mul_width_add_width_le hi
  have enough : len * t.width ≤ (bytes.drop byteStart).length := by
    rw [List.length_drop]
    omega
  obtain ⟨v, item, bits⟩ := getElem?_map_ofBlock_cut enough hi
  refine ⟨v, item, ?_⟩
  rw [bits, List.drop_drop, Positional.value_take_drop (by omega)]

/-- Of the bytes of some elements, each is a digit of the pattern of its own element. -/
theorem getElem?_flatMap_eq_quotient {vs : List (Element t)} {i j : Nat} {v : Element t}
    (element : vs[i]? = some v) (hj : j < t.width) :
    ∃ b, (vs.flatMap toBytes)[i * t.width + j]? = some b ∧
      b.toNat = v.bits.toNat / 256 ^ (t.width - 1 - j) % 256 := by
  obtain ⟨b, digit, quotient⟩ := Positional.getElem?_digits v.bits.toNat hj
  refine ⟨b, ?_, quotient⟩
  rw [getElem?_flatMap_toBytes vs i hj, element, Option.bind_some]
  exact digit

end Element

end BytePacking
