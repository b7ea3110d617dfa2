import BytePacking.Proofs.Host.Refinement
import BytePacking.Proofs.Tensor.Endings
import BytePacking.Proofs.Traps

/-!
# All ways to unpack give the same elements and the same errors

Elements without an offset are unpacked as a range, as an array with one axis, by a call of the host
or one at a time.  Each of these has checks of its own, and they come in different orders; but they
find the same fault, if there is one, and the same elements otherwise (`unpacking_paths_agree`).

A buffer that can exist leaves two of these checks without effect.  No more elements are read than
there are bytes, so an array of them can exist.  What remains is the check of the bytes: a range of
elements can be unpacked exactly if the last of them can be loaded (`exists_unpack_eq_ok_iff`), and
then all of them can.
-/

set_option autoImplicit false

namespace BytePacking

variable {t : ElementType} {bytes : List UInt8} {start n : Nat}

/-- Elements are read to a new array where the range of their bytes fits. -/
theorem exists_unpack_eq_ok_iff_fits (held : bytes.length ≤ AddressSpace.allocationLimit) :
    (∃ vs, unpack t bytes start 0 n = .ok vs) ↔ Window.Fits bytes.length start (n * t.width) := by
  rw [unpack_zero_eq held, Outcome.exists_ite_eq_ok_iff]

/-- One element is read where the range of its bytes fits. -/
theorem exists_load_eq_ok_iff_fits :
    (∃ v, load t bytes start = .ok v) ↔ Window.Fits bytes.length start t.width := by
  rw [load_eq, Outcome.exists_ite_eq_ok_iff]

/-! ## One element at a time -/

/-- Reading one element is reading an array of one, with the same errors. -/
theorem map_load_eq_unpack (bytes : List UInt8) (start : Nat) :
    (fun v => [v]) <$> load t bytes start = unpack t bytes start 0 1 := by
  have room : (0 + 1) * t.width ≤ AddressSpace.allocationLimit := by
    have small := t.width_le_eight
    have bound : 8 ≤ AddressSpace.allocationLimit := by decide
    omega
  rw [load_eq, unpack_eq, if_pos (show 0 + 1 < AddressSpace.wordLimit by decide), if_pos room,
    Nat.one_mul]
  split
  · rfl
  · rfl

/-- Elements are read to a new array where the last of them can be read on its own. -/
theorem exists_unpack_eq_ok_iff (held : bytes.length ≤ AddressSpace.allocationLimit)
    (pos : 0 < n) :
    (∃ vs, unpack t bytes start 0 n = .ok vs) ↔
      start + (n - 1) * t.width < AddressSpace.wordLimit ∧
        ∃ v, load t bytes (start + (n - 1) * t.width) = .ok v := by
  obtain ⟨k, rfl⟩ : ∃ k, n = k + 1 := ⟨n - 1, by omega⟩
  rw [exists_unpack_eq_ok_iff_fits held, exists_load_eq_ok_iff_fits, Nat.add_sub_cancel,
    Nat.succ_mul]
  constructor
  · rintro ⟨word, inside⟩
    exact ⟨by omega, by omega, by omega⟩
  · rintro ⟨-, word, inside⟩
    exact ⟨by omega, by omega⟩

/-- What is unpacked are the elements that can be loaded one behind the other. -/
theorem load_of_unpack_eq_ok {vs : List (Element t)} (ok : unpack t bytes start 0 n = .ok vs) :
    vs.length = n ∧
      ∀ i < n, ∃ v, load t bytes (start + i * t.width) = .ok v ∧ vs[i]? = some v := by
  obtain ⟨source, -, rfl⟩ := fits_of_unpack_eq_ok ok
  rw [List.replicate_zero, List.nil_append]
  constructor
  · exact Element.length_map_ofBlock_cut ..
  · intro i hi
    have before : i * t.width + t.width ≤ n * t.width := t.mul_width_add_width_le hi
    have word := source.word
    have inside := source.inside
    have block : Window.Fits bytes.length (start + i * t.width) t.width := ⟨by omega, by omega⟩
    refine ⟨_, by rw [load_eq, if_pos block], ?_⟩
    rw [List.getElem?_map, Blocks.getElem?_cut _ hi, List.drop_drop, Option.map_some]

/-! ## An array with one axis -/

/-- An array with one axis is read as the list of its elements: neither its shape nor the number of
its elements is ever refused. -/
theorem Tensor.values_unpack_singleton (held : bytes.length ≤ AddressSpace.allocationLimit)
    (word : n < AddressSpace.wordLimit) :
    values <$> unpack t bytes start [n] = BytePacking.unpack t bytes start 0 n := by
  have count : Shape.count? [n] = some n := by
    show (AddressSpace.mul? 1 n).bind some = some n
    rw [AddressSpace.mul?, Nat.one_mul, if_pos word, Option.bind_some]
  rw [unpack, count, Outcome.ofOption_some, Outcome.ok_bind]
  cases read : BytePacking.unpack t bytes start 0 n with
  | ok vs =>
    have length := (load_of_unpack_eq_ok read).1
    have source := (exists_unpack_eq_ok_iff_fits held).1 ⟨vs, read⟩
    have allocatable : Shape.Allocatable [n] := by
      have few : n ≤ n * t.width := t.le_mul_width _
      have inside := source.inside
      rw [Shape.allocatable_singleton]
      omega
    have formed : ofList? [n] vs = some ⟨[n], vs, by simpa using length, allocatable⟩ :=
      ofList?_eq_some_iff.2 ⟨rfl, rfl⟩
    rw [Outcome.ok_bind, formed, Outcome.ofOption_some, Outcome.map_ok]
  | error e => rfl
  | trap => rfl

/-! ## A call of the host -/

/-- The host reads elements as the operation on unsigned bytes does. -/
theorem Host.outcome_unpack_signed (bytes : List UInt8) {start n : Nat}
    (hstart : start ≤ 2147483647) (hn : n ≤ 2147483647) :
    (Host.unpack t (some (signed bytes)) (Int32.ofNat start) (Int32.ofNat n)).outcome =
      (BytePacking.unpack t bytes start 0 n).mapError .outOfRange := by
  have start' : (Int32.ofNat start).toInt = start := Int32.toInt_ofNat_of_lt (by omega)
  have n' : (Int32.ofNat n).toInt = n := Int32.toInt_ofNat_of_lt (by omega)
  have refines : (Host.unpack t (some (signed bytes)) (Int32.ofNat start) (Int32.ofNat n)).Refines id
      (BytePacking.unpack t (unsigned (signed bytes)) (Int32.ofNat start).toInt.toNat 0
        (Int32.ofNat n).toInt.toNat) :=
    unpack_refines (signed bytes) (by omega) (by omega)
  rw [start', n', Int.toNat_natCast, Int.toNat_natCast, unsigned_signed] at refines
  rcases refines with ⟨vs, operation, call⟩ | ⟨e, operation, call⟩
  · rw [call, operation]
    rfl
  · rw [call, operation]
    rfl

/-- The elements from a byte on are the same, or refused for the same reason, in whatever way they
are read: as a range or as an array with one axis, and by the host as far as it can say where they
are and how many.  If there are any, they can be read exactly if the last of them can be loaded,
and each of them is what is loaded at its place; a single one is what is loaded there in any case.
As for every array, it is understood that the buffer can exist, and that a length is a word. -/
theorem unpacking_paths_agree (t : ElementType) {bytes : List UInt8} (start : Nat) {n : Nat}
    (held : bytes.length ≤ AddressSpace.allocationLimit) (word : n < AddressSpace.wordLimit) :
    unpack t bytes start 0 n ≠ .trap ∧
    unpackAt t bytes start n = unpack t bytes start 0 n ∧
    Tensor.values <$> Tensor.unpack t bytes start [n] = unpack t bytes start 0 n ∧
    (start ≤ 2147483647 → n ≤ 2147483647 →
      let call := Host.unpack t (some (Host.signed bytes)) (Int32.ofNat start) (Int32.ofNat n)
      (∀ vs, unpack t bytes start 0 n = .ok vs → call.outcome = .ok vs) ∧
        ∀ e, unpack t bytes start 0 n = .error e →
          ∃ x, call.outcome = .error x ∧ x.source = some e) ∧
    (0 < n →
      ((∃ vs, unpack t bytes start 0 n = .ok vs) ↔
        start + (n - 1) * t.width < AddressSpace.wordLimit ∧
          ∃ v, load t bytes (start + (n - 1) * t.width) = .ok v) ∧
      ∀ vs, unpack t bytes start 0 n = .ok vs → vs.length = n ∧
        ∀ i < n, ∃ v, load t bytes (start + i * t.width) = .ok v ∧ vs[i]? = some v) ∧
    (fun v => [v]) <$> load t bytes start = unpack t bytes start 0 1 := by
  refine ⟨unpackAt_ne_trap held start n, rfl, Tensor.values_unpack_singleton held word, ?_, ?_,
    map_load_eq_unpack bytes start⟩
  · intro hstart hn
    have outcome := Host.outcome_unpack_signed (t := t) bytes hstart hn
    constructor
    · intro vs ok
      rw [outcome, ok, Outcome.mapError_ok]
    · intro e refused
      refine ⟨.outOfRange e, ?_, rfl⟩
      rw [outcome, refused, Outcome.mapError_error]
  · intro pos
    exact ⟨exists_unpack_eq_ok_iff held pos, fun vs => load_of_unpack_eq_ok⟩

/-- Two numbers from the middle of a buffer, and a third that is not all there: the error is the
same in every way. -/
theorem unpacking_paths_agree_int16 :
    (Tensor.values <$> Tensor.unpack .int16 [7, 0xFF, 0x80, 0, 5, 9] 1 [2] =
        .ok [⟨0xFF80⟩, ⟨5⟩] ∧
      (Host.unpack .int16 (some (Host.signed [7, 0xFF, 0x80, 0, 5, 9])) 1 2).outcome =
        .ok [⟨0xFF80⟩, ⟨5⟩] ∧
      ∃ v, load .int16 [7, 0xFF, 0x80, 0, 5, 9] 3 = .ok v ∧
        ([⟨0xFF80⟩, ⟨5⟩] : List (Element .int16))[1]? = some v) ∧
    Tensor.values <$> Tensor.unpack .int16 [7, 0xFF, 0x80, 0, 5, 9] 1 [3] =
        .error ⟨.bytes, .pastEnd 7 6⟩ ∧
      ∃ x, (Host.unpack .int16 (some (Host.signed [7, 0xFF, 0x80, 0, 5, 9])) 1 3).outcome =
          .error x ∧ x.source = some ⟨.bytes, .pastEnd 7 6⟩ := by
  have two : unpack .int16 [7, 0xFF, 0x80, 0, 5, 9] 1 0 2 = .ok [⟨0xFF80⟩, ⟨5⟩] := by decide
  have three : unpack .int16 [7, 0xFF, 0x80, 0, 5, 9] 1 0 3 =
      .error ⟨.bytes, .pastEnd 7 6⟩ := by decide
  have held : ([7, 0xFF, 0x80, 0, 5, 9] : List UInt8).length ≤ AddressSpace.allocationLimit := by
    decide
  obtain ⟨-, -, shaped, host, single, -⟩ :=
    unpacking_paths_agree .int16 1 held (show 2 < AddressSpace.wordLimit by decide)
  obtain ⟨-, -, refusedShaped, refusedHost, -⟩ :=
    unpacking_paths_agree .int16 1 held (show 3 < AddressSpace.wordLimit by decide)
  refine ⟨⟨shaped.trans two, ?_, ?_⟩, refusedShaped.trans three, ?_⟩
  · exact (host (by decide) (by decide)).1 _ two
  · exact ((single (by decide)).2 _ two).2 1 (by decide)
  · exact (refusedHost (by decide) (by decide)).2 _ three

end BytePacking
