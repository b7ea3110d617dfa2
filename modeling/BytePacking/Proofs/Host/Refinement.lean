import BytePacking.Host.Primitive
import BytePacking.Proofs.Host.Endings

/-!
# The calls of the host refine the operations on unsigned bytes

Where no array is missing and no index is negative, each call does what the operation of the same
name does on the bytes taken modulo 256: they succeed together and leave the same contents, and
where the operation is refused the call raises the exception for the very same error and changes
nothing (`Copied.Refines`, `Reply.Refines`).  No call traps, since what the host can ask for always
fits in memory.  `calls_refine_operations` says so for the four calls and for their names at the
number types of the host.

A negative byte counts as its residue, so it reaches no bit beyond its own eight: elements have the
number `unsignedValue` of their bytes for a pattern.
-/

set_option autoImplicit false

namespace BytePacking.Host

/-! ## Signed and unsigned bytes -/

/-- The number that bytes of the host stand for, each of them taken modulo 256. -/
def unsignedValue : List Int8 → Nat
  | [] => 0
  | b :: bs => (b.toInt % 256).toNat * Positional.weight bs.length + unsignedValue bs

/-- An unsigned byte is the residue of the signed one. -/
theorem toNat_toUInt8 (b : Int8) : b.toUInt8.toNat = (b.toInt % 256).toNat := by
  have small : b.toUInt8.toNat < 256 := b.toUInt8.toNat_lt
  have signed : b.toInt = if 2 * b.toUInt8.toNat < 256 then (b.toUInt8.toNat : Int)
      else (b.toUInt8.toNat : Int) - 256 :=
    BitVec.toInt_eq_toNat_cond b.toBitVec
  split at signed <;> omega

/-- As an unsigned number a byte of the host is its remainder by 256. -/
theorem map_toNat_unsigned (bytes : List Int8) :
    (unsigned bytes).map UInt8.toNat = bytes.map fun b => (b.toInt % 256).toNat := by
  rw [unsigned, List.map_map]
  apply List.map_congr_left
  intro b _
  exact toNat_toUInt8 b

/-- So the number that bytes of the host stand for is one of remainders. -/
theorem value_unsigned (bytes : List Int8) :
    Positional.value (unsigned bytes) = unsignedValue bytes := by
  induction bytes with
  | nil => rfl
  | cons b bs ih =>
    show b.toUInt8.toNat * Positional.weight (unsigned bs).length +
      Positional.value (unsigned bs) = _
    rw [toNat_toUInt8, length_unsigned, ih, unsignedValue]

/-! ## Refinement -/

/-- A copying call refines an operation on an array that is seen through `view`: it leaves what the
operation leaves, and both succeed, or both fail for the same reason and the call leaves what was
there before. -/
def Copied.Refines {γ δ : Type} (call : Copied δ) (before : List δ) (view : List γ → List δ)
    (operation : Update RangeError (List γ)) : Prop :=
  call.dest = some (view operation.dest) ∧
    ((operation.outcome = .ok () ∧ call.outcome = .ok ()) ∨
      ∃ e, operation.outcome = .error e ∧ call.outcome = .error (.outOfRange e) ∧
        call.dest = some before)

/-- A call that makes an array refines an operation whose result is seen through `view`: both
succeed with the same result, or both fail for the same reason. -/
def Reply.Refines {γ δ : Type} (call : Reply δ) (view : γ → δ) (operation : Outcome RangeError γ) :
    Prop :=
  (∃ a, operation = .ok a ∧ call.outcome = .ok (view a)) ∨
    ∃ e, operation = .error e ∧ call.outcome = .error (.outOfRange e)

/-- Once its arguments are accepted a copying call refines its change, if the change either succeeds
or keeps what was there. -/
theorem Copied.refines_of_accepted {α γ δ : Type} {arguments : Reply α} {a : α}
    {change : α → Update RangeError (List δ)} {operation : Update RangeError (List γ)}
    {kept : List γ} {before : List δ} (view : List γ → List δ)
    (accepted : arguments.outcome = .ok a) (same : change a = operation.map view)
    (ends : operation.outcome = .ok () ∨ ∃ e, operation = ⟨.error e, kept⟩)
    (unchanged : view kept = before) :
    (arguments.update (some before) change).Refines before view operation := by
  have outcome := Reply.outcome_update arguments (some before) change
  have dest := Reply.dest_update_of_ok (some before) change accepted
  rw [accepted, Outcome.ok_bind, same, Update.outcome_map] at outcome
  rw [same, Update.dest_map] at dest
  refine ⟨dest, ?_⟩
  rcases ends with ok | ⟨e, rfl⟩
  · left
    rw [ok] at outcome
    exact ⟨ok, outcome⟩
  · right
    rw [unchanged] at dest
    exact ⟨e, rfl, outcome, dest⟩

/-- A call that makes an array refines the operation that it converts, if that one answers. -/
theorem Reply.refines_of_outcome {γ δ : Type} {call : Reply δ} {view : γ → δ}
    {operation : Outcome RangeError γ}
    (outcome : call.outcome = operation.mapError .outOfRange >>= fun a => .ok (view a))
    (answers : operation ≠ .trap) : call.Refines view operation := by
  cases operation with
  | ok a => exact .inl ⟨a, rfl, outcome⟩
  | error e => exact .inr ⟨e, rfl, outcome⟩
  | trap => exact absurd rfl answers

section Accepted

variable {σ δ : Type} {region source target : Region} {inStart outStart len : Int32}

/-- Arguments for reading are accepted if no number is negative. -/
theorem outcome_readingArguments_of_nonneg (items : List σ) (hin : 0 ≤ inStart.toInt)
    (hlen : 0 ≤ len.toInt) :
    (readingArguments region (some items) inStart len).outcome =
      .ok ⟨items, inStart.toInt.toNat, len.toInt.toNat⟩ := by
  rw [outcome_readingArguments, if_neg (Int.not_lt.2 hin), if_neg (Int.not_lt.2 hlen)]

/-- Arguments for copying are accepted if no number is negative. -/
theorem outcome_copyingArguments_of_nonneg (inItems : List σ) (outItems : List δ)
    (hin : 0 ≤ inStart.toInt) (hout : 0 ≤ outStart.toInt) (hlen : 0 ≤ len.toInt) :
    (copyingArguments source target (some inItems) inStart (some outItems) outStart
      len).outcome =
      .ok (⟨inItems, inStart.toInt.toNat, len.toInt.toNat⟩, ⟨outItems, outStart.toInt.toNat⟩) := by
  rw [outcome_copyingArguments, if_neg (Int.not_lt.2 hin), if_neg (Int.not_lt.2 hlen),
    if_neg (Int.not_lt.2 hout)]

end Accepted

/-- So many elements as the host can ask for fit in memory. -/
theorem toNat_mul_width_le_allocationLimit (len : Int32) (t : ElementType) :
    len.toInt.toNat * t.width ≤ AddressSpace.allocationLimit := by
  have few : len.toInt.toNat ≤ 2147483647 := by
    have := len.toInt_lt
    omega
  calc len.toInt.toNat * t.width ≤ 2147483647 * 8 := Nat.mul_le_mul few t.width_le_eight
    _ ≤ AddressSpace.allocationLimit := by decide

section Calls

variable {t : ElementType} {inStart outStart len : Int32}

/-- A call that writes in place is the operation on unsigned bytes. -/
theorem packInto_refines (inData : List (Element t)) (outData : List Int8)
    (hin : 0 ≤ inStart.toInt) (hout : 0 ≤ outStart.toInt) (hlen : 0 ≤ len.toInt) :
    (packInto (some inData) inStart (some outData) outStart len).Refines outData signed
      (BytePacking.packInto inData inStart.toInt.toNat (unsigned outData) outStart.toInt.toNat
        len.toInt.toNat) :=
  Copied.refines_of_accepted signed
    (outcome_copyingArguments_of_nonneg inData outData hin hout hlen) rfl
    (packInto_done_or_error ..) (signed_unsigned outData)

/-- A call with a faulty argument raises the same exception whatever the bytes of the host are, and
leaves them. -/
theorem packInto_of_fault {inData : Option (List (Element t))}
    (faulty : inData = none ∨ inStart.toInt < 0 ∨ len.toInt < 0 ∨ outStart.toInt < 0) :
    ∃ e, ∀ outData : List Int8,
      (packInto inData inStart (some outData) outStart len).outcome = .error e ∧
        (packInto inData inStart (some outData) outStart len).dest = some outData := by
  obtain ⟨e, raises⟩ : ∃ e, ∀ outData : List Int8,
      (copyingArguments .elements .bytes inData inStart (some outData) outStart len).outcome =
        .error e :=
    exists_exception_of_fault faulty
  refine ⟨e, ?_⟩
  intro outData
  exact Reply.update_of_error (some outData) _ (raises outData)

/-- On bytes that are known unsigned the call is the operation on them. -/
theorem packInto_signed (inData : List (Element t)) (buffer : List UInt8)
    (hin : 0 ≤ inStart.toInt) (hout : 0 ≤ outStart.toInt) (hlen : 0 ≤ len.toInt) :
    let call := packInto (some inData) inStart (some (signed buffer)) outStart len
    let operation := BytePacking.packInto inData inStart.toInt.toNat buffer outStart.toInt.toNat
      len.toInt.toNat
    call.outcome = operation.outcome.mapError .outOfRange ∧
      call.dest = some (signed operation.dest) := by
  obtain ⟨dest, ends⟩ := packInto_refines (t := t) inData (signed buffer) hin hout hlen
  rw [unsigned_signed] at dest ends
  refine ⟨?_, dest⟩
  rcases ends with ⟨operation, call⟩ | ⟨e, operation, call, -⟩
  · rw [call, operation]
    rfl
  · rw [call, operation]
    rfl

/-- A call that reads in place is the operation on unsigned bytes. -/
theorem unpackInto_refines (inData : List Int8) (outData : List (Element t))
    (hin : 0 ≤ inStart.toInt) (hout : 0 ≤ outStart.toInt) (hlen : 0 ≤ len.toInt) :
    (unpackInto (some inData) inStart (some outData) outStart len).Refines outData id
      (BytePacking.unpackInto (unsigned inData) inStart.toInt.toNat outData outStart.toInt.toNat
        len.toInt.toNat) :=
  Copied.refines_of_accepted id
    (outcome_copyingArguments_of_nonneg inData outData hin hout hlen) rfl
    (unpackInto_done_or_error ..) rfl

/-- A call that makes an array of bytes is the operation on unsigned bytes. -/
theorem pack_refines (data : List (Element t)) (hin : 0 ≤ inStart.toInt) (hlen : 0 ≤ len.toInt) :
    (pack (some data) inStart len).Refines signed
      (BytePacking.pack data inStart.toInt.toNat 0 len.toInt.toNat) := by
  apply Reply.refines_of_outcome
  · unfold pack
    rw [Reply.outcome_bind, outcome_readingArguments_of_nonneg data hin hlen, Outcome.ok_bind,
      Reply.outcome_bind, Reply.outcome_ofOutcome]
    rfl
  · apply pack_ne_trap
    rw [Nat.zero_add]
    exact toNat_mul_width_le_allocationLimit len t

/-- A call that makes an array of elements is the operation on unsigned bytes. -/
theorem unpack_refines (data : List Int8) (hin : 0 ≤ inStart.toInt) (hlen : 0 ≤ len.toInt) :
    (unpack t (some data) inStart len).Refines id
      (BytePacking.unpack t (unsigned data) inStart.toInt.toNat 0 len.toInt.toNat) := by
  apply Reply.refines_of_outcome
  · unfold unpack
    rw [Reply.outcome_bind, outcome_readingArguments_of_nonneg data hin hlen, Outcome.ok_bind,
      Reply.outcome_ofOutcome]
    exact (bind_pure _).symm
  · apply unpack_ne_trap
    rw [Nat.zero_add]
    exact toNat_mul_width_le_allocationLimit len t

/-- The elements of a window of the host are the numbers of its bytes, taken modulo 256. -/
theorem getElem?_map_ofBlock_cut_unsigned {data : List Int8} {start count i : Nat}
    (source : Window.Fits (unsigned data).length start (count * t.width)) (h : i < count) :
    ∃ v, ((Blocks.cut t.width count ((unsigned data).drop start)).map (Element.ofBlock t))[i]? =
        some v ∧
      v.bits.toNat = unsignedValue ((data.drop (start + i * t.width)).take t.width) := by
  have enough : count * t.width ≤ ((unsigned data).drop start).length := by
    have := source.inside
    rw [List.length_drop]
    omega
  obtain ⟨v, read, bits⟩ := Element.getElem?_map_ofBlock_cut enough h
  refine ⟨v, read, ?_⟩
  have block : (((unsigned data).drop start).drop (i * t.width)).take t.width =
      unsigned ((data.drop (start + i * t.width)).take t.width) := by
    simp only [unsigned, List.drop_drop, List.map_take, List.map_drop]
  rw [bits, block, value_unsigned]

/-- No negative byte reaches beyond its own eight bits in an array that a call has made. -/
theorem bits_of_unpack {data : List Int8} {unpacked : List (Element t)}
    (hin : 0 ≤ inStart.toInt) (hlen : 0 ≤ len.toInt)
    (ok : (unpack t (some data) inStart len).outcome = .ok unpacked) :
    ∀ i < len.toInt.toNat, ∃ v, unpacked[i]? = some v ∧
      v.bits.toNat =
        unsignedValue ((data.drop (inStart.toInt.toNat + i * t.width)).take t.width) := by
  intro i hi
  rcases unpack_refines (t := t) data hin hlen with ⟨a, operation, call⟩ | ⟨e, -, call⟩
  · rw [call] at ok
    cases ok
    obtain ⟨source, -, rfl⟩ := fits_of_unpack_eq_ok operation
    exact getElem?_map_ofBlock_cut_unsigned source hi
  · rw [call] at ok
    cases ok

/-- No negative byte reaches beyond its own eight bits in an array that a call has filled. -/
theorem bits_of_unpackInto {inData : List Int8} {outData filled : List (Element t)}
    (hin : 0 ≤ inStart.toInt) (hout : 0 ≤ outStart.toInt) (hlen : 0 ≤ len.toInt)
    (ok : (unpackInto (some inData) inStart (some outData) outStart len).outcome = .ok ())
    (dest : (unpackInto (some inData) inStart (some outData) outStart len).dest = some filled) :
    ∀ i < len.toInt.toNat, ∃ v, filled[outStart.toInt.toNat + i]? = some v ∧
      v.bits.toNat =
        unsignedValue ((inData.drop (inStart.toInt.toNat + i * t.width)).take t.width) := by
  intro i hi
  obtain ⟨left, ends⟩ := unpackInto_refines (t := t) inData outData hin hout hlen
  rcases ends with ⟨operation, -⟩ | ⟨e, -, call, -⟩
  · have done : BytePacking.unpackInto (unsigned inData) inStart.toInt.toNat outData
        outStart.toInt.toNat len.toInt.toNat = .done filled := by
      rw [left] at dest
      rw [← Option.some.inj dest, id, Update.done, ← operation]
    obtain ⟨source, slots, rfl⟩ := fits_of_unpackInto_eq_done done
    obtain ⟨v, read, bits⟩ := getElem?_map_ofBlock_cut_unsigned source hi
    refine ⟨v, ?_, bits⟩
    have count := Element.length_map_ofBlock_cut (t := t) len.toInt.toNat
      ((unsigned inData).drop inStart.toInt.toNat)
    have inside := slots.inside
    rw [getElem?_splice_add (by omega) (by omega), read]
  · rw [call] at ok
    cases ok

end Calls

/-- The four calls refine the four operations on bytes taken modulo 256, wherever no array is
missing and no index is negative: packing and unpacking in place, then into a new array.  So do the
calls at each number type of the host, which are these calls at its element type.  Taking bytes
modulo 256 is undone by giving them back their sign, and no sign reaches into the bits of another
byte, in an array that a call has made or filled. -/
theorem calls_refine_operations (t : ElementType) {inStart outStart len : Int32}
    (hin : 0 ≤ inStart.toInt) (hout : 0 ≤ outStart.toInt) (hlen : 0 ≤ len.toInt) :
    (∀ (inData : List (Element t)) (outData : List Int8),
      (packInto (some inData) inStart (some outData) outStart len).Refines outData signed
        (BytePacking.packInto inData inStart.toInt.toNat (unsigned outData) outStart.toInt.toNat
          len.toInt.toNat)) ∧
    (∀ (inData : List Int8) (outData : List (Element t)),
      (unpackInto (some inData) inStart (some outData) outStart len).Refines outData id
        (BytePacking.unpackInto (unsigned inData) inStart.toInt.toNat outData
          outStart.toInt.toNat len.toInt.toNat)) ∧
    (∀ data : List (Element t),
      (pack (some data) inStart len).Refines signed
        (BytePacking.pack data inStart.toInt.toNat 0 len.toInt.toNat)) ∧
    (∀ data : List Int8,
      (unpack t (some data) inStart len).Refines id
        (BytePacking.unpack t (unsigned data) inStart.toInt.toNat 0 len.toInt.toNat)) ∧
    (∀ p : Primitive, p.packInto = packInto ∧ p.unpackInto = unpackInto ∧ p.pack = pack ∧
      p.unpack = unpack p.elementType) ∧
    [Primitive.short, .int, .long, .float, .double].map Primitive.elementType =
      [.int16, .int32, .int64, .float32, .float64] ∧
    (∀ bytes : List Int8,
      (unsigned bytes).map UInt8.toNat = bytes.map (fun b => (b.toInt % 256).toNat) ∧
        signed (unsigned bytes) = bytes) ∧
    (∀ bytes : List UInt8, unsigned (signed bytes) = bytes) ∧
    (∀ (data : List Int8) (unpacked : List (Element t)),
      (unpack t (some data) inStart len).outcome = .ok unpacked →
      ∀ i < len.toInt.toNat, ∃ v, unpacked[i]? = some v ∧
        v.bits.toNat =
          unsignedValue ((data.drop (inStart.toInt.toNat + i * t.width)).take t.width)) ∧
    ∀ (inData : List Int8) (outData filled : List (Element t)),
      (unpackInto (some inData) inStart (some outData) outStart len).outcome = .ok () →
      (unpackInto (some inData) inStart (some outData) outStart len).dest = some filled →
      ∀ i < len.toInt.toNat, ∃ v, filled[outStart.toInt.toNat + i]? = some v ∧
        v.bits.toNat =
          unsignedValue ((inData.drop (inStart.toInt.toNat + i * t.width)).take t.width) := by
  refine ⟨?_, ?_, ?_, ?_, ?_, rfl, ?_, unsigned_signed, ?_, ?_⟩
  · intro inData outData
    exact packInto_refines inData outData hin hout hlen
  · intro inData outData
    exact unpackInto_refines inData outData hin hout hlen
  · intro data
    exact pack_refines data hin hlen
  · intro data
    exact unpack_refines data hin hlen
  · intro p
    exact ⟨rfl, rfl, rfl, rfl⟩
  · intro bytes
    exact ⟨map_toNat_unsigned bytes, signed_unsigned bytes⟩
  · intro data unpacked ok
    exact bits_of_unpack hin hlen ok
  · intro inData outData filled ok dest
    exact bits_of_unpackInto hin hout hlen ok dest

/-- The byte -128 of the host is read as 128, and a negative number is packed among bytes of both
signs. -/
theorem calls_refine_operations_int :
    (0 ≤ (1 : Int32).toInt ∧ 0 ≤ (2 : Int32).toInt) ∧
    (packInto (t := .int32) (some [⟨5⟩, ⟨0xFFFFFFFE⟩]) 1 (some [9, -9, 9, -9, 9, -9, 9]) 2
      1).Refines [9, -9, 9, -9, 9, -9, 9] signed
      (BytePacking.packInto (t := .int32) [⟨5⟩, ⟨0xFFFFFFFE⟩] 1 [9, 247, 9, 247, 9, 247, 9] 2 1) ∧
    (unpack .int32 (some [-9, 0, 0, 0, -128]) 1 1).outcome = .ok [⟨128⟩] ∧
    ∃ v : Element .int32, [⟨128⟩][0]? = some v ∧ v.bits.toNat = unsignedValue [0, 0, 0, -128] := by
  have law := @calls_refine_operations .int32 1 2 1 (by decide) (by decide) (by decide)
  have ok : (unpack .int32 (some [-9, 0, 0, 0, -128]) 1 1).outcome = .ok [⟨128⟩] := by decide
  obtain ⟨packing, -, -, -, -, -, -, -, bits, -⟩ := law
  exact ⟨by decide, packing _ _, ok, bits _ _ ok 0 (by decide)⟩

end BytePacking.Host
