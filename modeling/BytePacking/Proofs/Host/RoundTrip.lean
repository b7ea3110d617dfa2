import BytePacking.Proofs.Host.Refinement
import BytePacking.Proofs.RoundTrip

/-!
# What the host packs it unpacks again

A call that packs elements into bytes of the host and a call that unpacks them from there agree on
every element, with the arguments as the host passes them: signed bytes, and indices and lengths of
32 bits.  `unpack_packed_by_host` says so for the calls that copy and for those that make an array,
and of the latter also for any part of what was packed, read from a byte offset of its own.

Success of the first call is all that is asked for.  It shows that no argument of that call is
negative and that its ranges fit, and the second call is accepted for the same reasons.
-/

set_option autoImplicit false

namespace BytePacking.Host

/-! ## What success tells -/

/-- Where the operation succeeds so does the copy, and the host sees what the operation leaves. -/
theorem Copied.Refines.of_done {γ δ : Type} {call : Copied δ} {before : List δ}
    {view : List γ → List δ} {new : List γ} (h : call.Refines before view (.done new)) :
    call.outcome = .ok () ∧ call.dest = some (view new) := by
  obtain ⟨dest, ⟨-, ok⟩ | ⟨e, operation, -⟩⟩ := h
  · exact ⟨ok, dest⟩
  · cases operation

/-- Where the operation succeeds so does the call, and the host sees its value. -/
theorem Reply.Refines.of_ok {γ δ : Type} {call : Reply δ} {view : γ → δ} {a : γ}
    (h : call.Refines view (.ok a)) : call.outcome = .ok (view a) := by
  obtain ⟨b, operation, ok⟩ | ⟨e, operation, -⟩ := h
  · cases operation
    exact ok
  · cases operation

variable {t : ElementType} {inStart outStart len : Int32}

/-- A call that has packed elements into an array was given no negative argument. -/
theorem nonneg_of_packInto_ok {inData : List (Element t)} {outData : List Int8}
    (ok : (packInto (some inData) inStart (some outData) outStart len).outcome = .ok ()) :
    0 ≤ inStart.toInt ∧ 0 ≤ outStart.toInt ∧ 0 ≤ len.toInt := by
  have sound : ¬ (some inData = none ∨ inStart.toInt < 0 ∨ len.toInt < 0 ∨ outStart.toInt < 0) := by
    intro faulty
    obtain ⟨e, raises⟩ := packInto_of_fault faulty
    rw [(raises outData).1] at ok
    cases ok
  simp only [not_or, Int.not_lt] at sound
  obtain ⟨-, hin, hlen, hout⟩ := sound
  exact ⟨hin, hout, hlen⟩

/-- A call that has packed elements into a new array was given no negative argument. -/
theorem nonneg_of_pack_ok {data : List (Element t)} {packed : List Int8}
    (ok : (pack (some data) inStart len).outcome = .ok packed) :
    0 ≤ inStart.toInt ∧ 0 ≤ len.toInt := by
  unfold pack at ok
  rw [Reply.outcome_bind, outcome_readingArguments] at ok
  split at ok
  · cases ok
  · next hin =>
    split at ok
    · cases ok
    · next hlen => exact ⟨Int.not_lt.1 hin, Int.not_lt.1 hlen⟩

/-- What a call that has packed elements into an array leaves there. -/
theorem fits_of_packInto_ok {inData : List (Element t)} {outData packed : List Int8}
    (ok : (packInto (some inData) inStart (some outData) outStart len).outcome = .ok ())
    (dest : (packInto (some inData) inStart (some outData) outStart len).dest = some packed) :
    Window.Fits inData.length inStart.toInt.toNat len.toInt.toNat ∧
      Window.Fits outData.length outStart.toInt.toNat (len.toInt.toNat * t.width) ∧
      unsigned packed = splice (unsigned outData) outStart.toInt.toNat
        (((inData.drop inStart.toInt.toNat).take len.toInt.toNat).flatMap Element.toBytes) := by
  obtain ⟨hin, hout, hlen⟩ := nonneg_of_packInto_ok ok
  obtain ⟨left, ⟨operation, -⟩ | ⟨e, -, raised, -⟩⟩ := packInto_refines inData outData hin hout hlen
  · have done : BytePacking.packInto inData inStart.toInt.toNat (unsigned outData)
        outStart.toInt.toNat len.toInt.toNat = .done (unsigned packed) := by
      rw [left] at dest
      rw [← Option.some.inj dest, unsigned_signed, Update.done, ← operation]
    obtain ⟨array, bytes, spliced⟩ := fits_of_packInto_eq_done done
    rw [length_unsigned] at bytes
    exact ⟨array, bytes, spliced⟩
  · rw [raised] at ok
    cases ok

/-- What a call that has packed elements into a new array gives. -/
theorem fits_of_pack_ok {data : List (Element t)} {packed : List Int8}
    (ok : (pack (some data) inStart len).outcome = .ok packed) :
    Window.Fits data.length inStart.toInt.toNat len.toInt.toNat ∧
      unsigned packed =
        ((data.drop inStart.toInt.toNat).take len.toInt.toNat).flatMap Element.toBytes := by
  obtain ⟨hin, hlen⟩ := nonneg_of_pack_ok ok
  rcases pack_refines data hin hlen with ⟨bytes, operation, call⟩ | ⟨e, -, raised⟩
  · obtain ⟨array, -, rfl⟩ := fits_of_pack_eq_ok operation
    rw [call] at ok
    cases ok
    exact ⟨array, unsigned_signed _⟩
  · rw [raised] at ok
    cases ok

/-! ## There and back -/

/-- Elements that were packed into an array are copied from there into any slots with room for
them. -/
theorem unpackInto_packed {inData slots : List (Element t)} {outData packed : List Int8}
    {destStart : Int32}
    (ok : (packInto (some inData) inStart (some outData) outStart len).outcome = .ok ())
    (dest : (packInto (some inData) inStart (some outData) outStart len).dest = some packed)
    (hdest : 0 ≤ destStart.toInt)
    (room : destStart.toInt.toNat + len.toInt.toNat ≤ slots.length) :
    (unpackInto (some packed) outStart (some slots) destStart len).outcome = .ok () ∧
      (unpackInto (some packed) outStart (some slots) destStart len).dest =
        some (splice slots destStart.toInt.toNat
          ((inData.drop inStart.toInt.toNat).take len.toInt.toNat)) := by
  obtain ⟨array, bytes, spliced⟩ := fits_of_packInto_ok ok dest
  obtain ⟨-, hout, hlen⟩ := nonneg_of_packInto_ok ok
  have target : Window.Fits slots.length destStart.toInt.toNat len.toInt.toNat := by
    have start := destStart.toInt_lt
    have length := len.toInt_lt
    have bound : 2 ^ 31 + 2 ^ 31 ≤ AddressSpace.wordLimit := by decide
    refine ⟨?_, room⟩
    omega
  rw [← length_unsigned] at bytes
  have operation := unpackInto_splice (length_take_drop array.inside) bytes target
  have refines := unpackInto_refines (t := t) packed slots hout hdest hlen
  rw [spliced, operation] at refines
  exact refines.of_done

/-- Any part of the bytes of a list of elements is unpacked as that part of the list. -/
theorem unpack_part_of_flatMap {vs : List (Element t)} {bytes : List Int8} {first : Int32}
    {j : Nat} (packed : unsigned bytes = vs.flatMap Element.toBytes)
    (start : first.toInt = j * t.width) (hlen : 0 ≤ len.toInt)
    (inside : j + len.toInt.toNat ≤ vs.length) :
    (unpack t (some bytes) first len).outcome = .ok ((vs.drop j).take len.toInt.toNat) := by
  have hstart : first.toInt.toNat = j * t.width := by omega
  have count : ((vs.drop j).take len.toInt.toNat).length = len.toInt.toNat := by
    rw [List.length_take, List.length_drop]
    omega
  have source : Window.Fits (unsigned bytes).length first.toInt.toNat
      (len.toInt.toNat * t.width) := by
    have small := first.toInt_lt
    have few := toNat_mul_width_le_allocationLimit len t
    have bound : AddressSpace.allocationLimit + 2 ^ 31 ≤ AddressSpace.wordLimit := by decide
    constructor
    · omega
    · rw [hstart, packed, Element.length_flatMap_toBytes, ← Nat.add_mul]
      exact Nat.mul_le_mul_right _ inside
  -- The bytes from there on are those of the part, and then those of the elements behind it.
  have window : (unsigned bytes).drop first.toInt.toNat =
      ((vs.drop j).take len.toInt.toNat).flatMap Element.toBytes ++
        ((vs.drop j).drop len.toInt.toNat).flatMap Element.toBytes := by
    rw [packed, hstart, Element.drop_flatMap_toBytes, ← List.flatMap_append,
      List.take_append_drop]
  have operation := unpack_of_drop_eq count source window
    (toNat_mul_width_le_allocationLimit len t)
  have refines : (unpack t (some bytes) first len).Refines id
      (BytePacking.unpack t (unsigned bytes) first.toInt.toNat 0 len.toInt.toNat) :=
    unpack_refines bytes (by omega) hlen
  rw [operation] at refines
  exact refines.of_ok

/-- Elements that a call has packed are unpacked by the next one, bit by bit.  Copied into an array
of the host, they are copied from there into any slots with room for them, and no other slot
changes.  Packed into a new array, they take their width in bytes each, and every part of them is
unpacked from the place of its first byte, as far as the host can name that place. -/
theorem unpack_packed_by_host (t : ElementType) (inStart len : Int32) :
    (∀ (inData : List (Element t)) (outData : List Int8) (outStart : Int32) (packed : List Int8),
      (packInto (some inData) inStart (some outData) outStart len).outcome = .ok () →
      (packInto (some inData) inStart (some outData) outStart len).dest = some packed →
      ∀ (slots : List (Element t)) (destStart : Int32), 0 ≤ destStart.toInt →
        destStart.toInt.toNat + len.toInt.toNat ≤ slots.length →
        (unpackInto (some packed) outStart (some slots) destStart len).outcome = .ok () ∧
        ∃ filled,
          (unpackInto (some packed) outStart (some slots) destStart len).dest = some filled ∧
          filled.length = slots.length ∧
          (∀ i < len.toInt.toNat, ∃ v, inData[inStart.toInt.toNat + i]? = some v ∧
            filled[destStart.toInt.toNat + i]? = some v) ∧
          ∀ p, p < destStart.toInt.toNat ∨ destStart.toInt.toNat + len.toInt.toNat ≤ p →
            filled[p]? = slots[p]?) ∧
    ∀ (data : List (Element t)) (packed : List Int8),
      (pack (some data) inStart len).outcome = .ok packed →
      packed.length = len.toInt.toNat * t.width ∧
      ∀ j m : Nat, j + m ≤ len.toInt.toNat → j * t.width ≤ 2147483647 →
        (unpack t (some packed) (Int32.ofNat (j * t.width)) (Int32.ofNat m)).outcome =
          .ok ((data.drop (inStart.toInt.toNat + j)).take m) := by
  constructor
  · intro inData outData outStart packed ok dest slots destStart hdest room
    obtain ⟨array, -, -⟩ := fits_of_packInto_ok ok dest
    obtain ⟨accepted, left⟩ := unpackInto_packed ok dest hdest room
    have count := length_take_drop array.inside
    have inside : destStart.toInt.toNat +
        ((inData.drop inStart.toInt.toNat).take len.toInt.toNat).length ≤ slots.length := by
      rwa [count]
    refine ⟨accepted, _, left, length_splice inside, ?_, ?_⟩
    · intro i hi
      exact exists_getElem?_splice_take_drop array.inside room hi
    · intro p outside
      apply getElem?_splice_of_outside inside
      rwa [count]
  · intro data packed ok
    obtain ⟨array, bytes⟩ := fits_of_pack_ok ok
    have count := length_take_drop array.inside
    constructor
    · rw [← length_unsigned, bytes, Element.length_flatMap_toBytes, count]
    · intro j m part start
      have length := len.toInt_lt
      have hstart : (Int32.ofNat (j * t.width)).toInt = j * t.width := by
        rw [Int32.toInt_ofNat_of_lt (by omega)]
        exact Int.natCast_mul ..
      have hm : (Int32.ofNat m).toInt = m := Int32.toInt_ofNat_of_lt (by omega)
      rw [unpack_part_of_flatMap bytes hstart (by omega) (by rw [hm]; omega), hm, Int.toNat_natCast,
        List.drop_take, List.take_take, List.drop_drop, Nat.min_eq_left (by omega)]

/-- Numbers of both signs among bytes of both signs, copied there and back, and the second of them
read alone from a new array. -/
theorem unpack_packed_by_host_int16 :
    ((packInto (t := .int16) (some [⟨5⟩, ⟨0xFF80⟩, ⟨0x7F⟩]) 1 (some [9, -9, 9, -9, 9, -9]) 1
        2).outcome = .ok () ∧
      (packInto (t := .int16) (some [⟨5⟩, ⟨0xFF80⟩, ⟨0x7F⟩]) 1 (some [9, -9, 9, -9, 9, -9]) 1
        2).dest = some [9, -1, -128, 0, 127, -9] ∧
      ∃ filled, (unpackInto (t := .int16) (some [9, -1, -128, 0, 127, -9]) 1
          (some [⟨1⟩, ⟨2⟩, ⟨3⟩, ⟨4⟩]) 1 2).dest = some filled ∧
        filled[0]? = some ⟨1⟩ ∧
        ∃ v : Element .int16, [⟨5⟩, ⟨0xFF80⟩, ⟨0x7F⟩][1 + 1]? = some v ∧
          filled[1 + 1]? = some v) ∧
    (pack (t := .int16) (some [⟨5⟩, ⟨0xFF80⟩, ⟨0x7F⟩]) 1 2).outcome = .ok [-1, -128, 0, 127] ∧
    (unpack .int16 (some [-1, -128, 0, 127]) 2 1).outcome = .ok [⟨0x7F⟩] := by
  obtain ⟨copying, making⟩ := unpack_packed_by_host .int16 1 2
  have accepted : (packInto (t := .int16) (some [⟨5⟩, ⟨0xFF80⟩, ⟨0x7F⟩]) 1
      (some [9, -9, 9, -9, 9, -9]) 1 2).outcome = .ok () := by decide
  have left : (packInto (t := .int16) (some [⟨5⟩, ⟨0xFF80⟩, ⟨0x7F⟩]) 1
      (some [9, -9, 9, -9, 9, -9]) 1 2).dest = some [9, -1, -128, 0, 127, -9] := by decide
  have made : (pack (t := .int16) (some [⟨5⟩, ⟨0xFF80⟩, ⟨0x7F⟩]) 1 2).outcome =
      .ok [-1, -128, 0, 127] := by decide
  obtain ⟨-, filled, dest, -, inside, outside⟩ :=
    copying _ _ 1 _ accepted left [⟨1⟩, ⟨2⟩, ⟨3⟩, ⟨4⟩] 1 (by decide) (by decide)
  obtain ⟨-, parts⟩ := making _ _ made
  refine ⟨⟨accepted, left, filled, dest, ?_, ?_⟩, made, ?_⟩
  · exact outside 0 (by decide)
  · exact inside 1 (by decide)
  · exact parts 1 1 (by decide) (by decide)

end BytePacking.Host
