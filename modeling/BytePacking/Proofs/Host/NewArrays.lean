import BytePacking.Proofs.FreshArrays
import BytePacking.Proofs.Traps

/-!
# The calls that make an array agree with those that copy into one

The host has its elements packed, or its bytes unpacked, in one of two ways: into an array that it
passes, or into a new one.  The two check their arguments apart from each other, and leave the work
to different operations.

`new_arrays_agree_with_copies` says that the host cannot tell them apart, but for one name.  Passing
zeros, as many as the length asks for, and copying to the start of them succeeds where making the
array does and leaves the same array; where both are refused the exceptions are equal.  Only an
array that is missing is known to the two calls by different names.

The proof has two steps.  With an offset of zero a copying call accepts the arguments that the other
call accepts (`outcome_copyingArguments_zero`); and on the same arguments the two operations agree,
since a new array is one of zeros that is filled in place.
-/

set_option autoImplicit false

namespace BytePacking.Host

variable {σ δ : Type} {t : ElementType}

/-! ## Agreement -/

/-- The array that a copying call leaves when it succeeds, as the value of an outcome. -/
def Copied.result (call : Copied δ) : Outcome Exception (List δ) := do
  call.outcome
  .ofOptionOrTrap call.dest

/-- A call that makes an array from `data` agrees with one that copies from it.  They succeed
together, with the same array, and fail together, for the same reason; but each has its own name for
an array that is missing. -/
structure Reply.AgreesWith (call : Reply (List δ)) (copy : Copied δ) (data : Option (List σ)) :
    Prop where
  /-- The one makes what the other leaves. -/
  ok (made : List δ) : call.outcome = .ok made ↔ copy.outcome = .ok () ∧ copy.dest = some made
  /-- Both raise the same exception. -/
  error (e : Exception) : data ≠ none → (call.outcome = .error e ↔ copy.outcome = .error e)
  /-- Both refuse a missing array. -/
  missing : data = none → call.outcome = .error (.nullArgument "data") ∧
    copy.outcome = .error (.nullArgument "inData")
  /-- Both answer. -/
  answers : call.outcome ≠ .trap ∧ copy.outcome ≠ .trap

/-- A copy has for its result the array that it leaves, if it succeeds. -/
theorem Copied.result_eq_ok_iff {call : Copied δ} {dest : List δ} :
    call.result = .ok dest ↔ call.outcome = .ok () ∧ call.dest = some dest := by
  unfold result
  cases call.outcome <;> simp [Outcome.ofOptionOrTrap_eq_ok_iff]

/-- A copy that fails has its exception for its result. -/
theorem Copied.result_eq_error_iff {call : Copied δ} {e : Exception} :
    call.result = .error e ↔ call.outcome = .error e := by
  unfold result
  cases call.outcome with
  | ok done => cases call.dest <;> simp
  | error other => simp
  | trap => simp

/-- Two calls on an array that is not missing agree if the one gives what the other leaves. -/
theorem Reply.agreesWith_of_result {call : Reply (List δ)} {copy : Copied δ} (items : List σ)
    (same : copy.result = call.outcome)
    (answers : call.outcome ≠ .trap ∧ copy.outcome ≠ .trap) :
    call.AgreesWith copy (some items) where
  ok made := by rw [← same, Copied.result_eq_ok_iff]
  error e _ := by rw [← same, Copied.result_eq_error_iff]
  missing := nofun
  answers := answers

/-- Two calls that refuse a missing array agree. -/
theorem Reply.agreesWith_none {call : Reply (List δ)} {copy : Copied δ}
    (making : call.outcome = .error (.nullArgument "data"))
    (copying : copy.outcome = .error (.nullArgument "inData")) :
    call.AgreesWith copy (none : Option (List σ)) where
  ok made := by simp [making, copying]
  error e h := absurd rfl h
  missing _ := ⟨making, copying⟩
  answers := by simp [making, copying]

/-- A call that changes an array leaves what its change leaves, once its arguments are accepted. -/
theorem Reply.result_update {α : Type} (arguments : Reply α) (dest : Option (List δ))
    (change : α → Update RangeError (List δ)) :
    (arguments.update dest change).result =
      arguments.outcome >>= fun a => (change a).result.mapError .outOfRange := by
  unfold Copied.result
  rw [outcome_update]
  cases accepted : arguments.outcome with
  | ok a =>
    rw [dest_update_of_ok dest change accepted, Outcome.ok_bind, Outcome.ok_bind]
    obtain ⟨outcome, new⟩ := change a
    cases outcome <;> rfl
  | error e => rfl
  | trap => rfl

/-! ## Arguments -/

/-- No start is refused on the side that is written if it is zero. -/
theorem outcome_copyingArguments_zero {source target : Region} (inItems : List σ) (start : Int32)
    (outItems : List δ) (len : Int32) :
    (copyingArguments source target (some inItems) start (some outItems) 0 len).outcome =
      (readingArguments source (some inItems) start len).outcome >>= fun reading =>
        .ok (reading, ⟨outItems, 0⟩) := by
  rw [outcome_copyingArguments, outcome_readingArguments, Outcome.ite_error_bind,
    Outcome.ite_error_bind, Outcome.ok_bind, if_neg (c := (0 : Int32).toInt < 0) (by decide)]
  rfl

/-- What is done with arguments from offset zero on depends on the side that is read alone. -/
theorem outcome_arguments_bind {source target : Region} {record : Record} {β : Type}
    (inItems : List σ) (start : Int32) (outItems : List δ) (len : Int32)
    (next : Source σ × Target δ → Outcome Exception β) :
    (do
      Reply.record record
      copyingArguments source target (some inItems) start (some outItems) 0 len :
        Reply (Source σ × Target δ)).outcome >>= next =
      (readingArguments source (some inItems) start len).outcome >>= fun reading =>
        next (reading, ⟨outItems, 0⟩) := by
  rw [Reply.record_bind, outcome_copyingArguments_zero, bind_assoc]
  rfl

/-! ## Calls -/

/-- Zero bytes are zero with a sign and without one. -/
@[simp] theorem unsigned_replicate_zero (n : Nat) :
    unsigned (List.replicate n 0) = List.replicate n 0 :=
  List.map_replicate

/-- Writing over as many zeros as the elements have bytes gives what writing to a new array gives.
-/
theorem result_packInto_zeros (items : List (Element t)) (start len : Int32) :
    (packInto (some items) start (some (List.replicate (len.toInt.toNat * t.width) 0)) 0
      len).result = (pack (some items) start len).outcome := by
  unfold packInto pack
  rw [Reply.result_update, outcome_arguments_bind, Reply.outcome_bind]
  apply Outcome.bind_congr_of_ok
  intro source accepted
  have length := length_of_readingArguments accepted
  have room : 0 + source.length * t.width ≤ AddressSpace.allocationLimit := by
    simpa using room_of_readingArguments t accepted
  show ((BytePacking.packInto source.items source.start (unsigned _) 0 source.length).map
    signed).result.mapError _ = _
  rw [Reply.outcome_bind, Reply.outcome_ofOutcome, pack_eq_result_packInto room, Nat.zero_add,
    length, unsigned_replicate_zero, Update.result_map, Outcome.mapError_map]
  rfl

/-- Reading into as many zeros as there are elements to read gives what reading into a new array
gives. -/
theorem result_unpackInto_zeros (items : List Int8) (start len : Int32) :
    (unpackInto (some items) start (some (List.replicate len.toInt.toNat (Element.zero t))) 0
      len).result = (unpack t (some items) start len).outcome := by
  unfold unpackInto unpack
  rw [Reply.result_update, outcome_arguments_bind, Reply.outcome_bind]
  apply Outcome.bind_congr_of_ok
  intro source accepted
  have length := length_of_readingArguments accepted
  have room : (0 + source.length) * t.width ≤ AddressSpace.allocationLimit := by
    simpa using room_of_readingArguments t accepted
  show (BytePacking.unpackInto (unsigned source.items) source.start _ 0
    source.length).result.mapError _ = _
  rw [Reply.outcome_ofOutcome, unpack_eq_result_unpackInto room, Nat.zero_add, length]

/-- The two calls that pack agree, whatever their arguments are. -/
theorem pack_agreesWith_packInto (data : Option (List (Element t))) (start len : Int32) :
    (pack data start len).AgreesWith
      (packInto data start (some (List.replicate (len.toInt.toNat * t.width) 0)) 0 len) data := by
  cases data with
  | none => exact Reply.agreesWith_none rfl rfl
  | some items =>
    exact Reply.agreesWith_of_result items (result_packInto_zeros items start len)
      ⟨pack_ne_trap _ _ _, packInto_ne_trap _ _ _ _ _⟩

/-- The two calls that unpack agree, whatever their arguments are. -/
theorem unpack_agreesWith_unpackInto (data : Option (List Int8)) (start len : Int32) :
    (unpack t data start len).AgreesWith
      (unpackInto data start (some (List.replicate len.toInt.toNat (Element.zero t))) 0 len)
      data := by
  cases data with
  | none => exact Reply.agreesWith_none rfl rfl
  | some items =>
    exact Reply.agreesWith_of_result items (result_unpackInto_zeros items start len)
      ⟨unpack_ne_trap _ _ _, unpackInto_ne_trap _ _ _ _ _⟩

/-- Making an array agrees with copying into zeros from their start on, for any array, any start and
any length.  The zeros are as many bytes or elements as the length asks for, and none if it is
negative. -/
theorem new_arrays_agree_with_copies (t : ElementType) (start len : Int32) :
    (∀ data : Option (List (Element t)),
      (pack data start len).AgreesWith
        (packInto data start (some (List.replicate (len.toInt.toNat * t.width) 0)) 0 len) data) ∧
    ∀ data : Option (List Int8),
      (unpack t data start len).AgreesWith
        (unpackInto data start (some (List.replicate len.toInt.toNat (Element.zero t))) 0 len)
        data :=
  ⟨fun data => pack_agreesWith_packInto data start len,
    fun data => unpack_agreesWith_unpackInto data start len⟩

/-- A number of sixteen bits packed in both ways; a range that ends behind the bytes, which is told
before any slot is written; and an array that is missing. -/
theorem new_arrays_agree_with_copies_int16 :
    ((packInto (t := .int16) (some [⟨5⟩, ⟨0xFF80⟩]) 1 (some [0, 0]) 0 1).outcome = .ok () ∧
      (packInto (t := .int16) (some [⟨5⟩, ⟨0xFF80⟩]) 1 (some [0, 0]) 0 1).dest =
        some [-1, -128]) ∧
    (unpackInto (t := .int16) (some [1, 2, 3]) 0 (some [⟨0⟩, ⟨0⟩]) 0 2).outcome =
      .error (.outOfRange ⟨.bytes, .pastEnd 4 3⟩) ∧
    (unpack .int16 none 0 2).outcome = .error (.nullArgument "data") ∧
    (unpackInto (t := .int16) none 0 (some [⟨0⟩, ⟨0⟩]) 0 2).outcome =
      .error (.nullArgument "inData") := by
  obtain ⟨packing, -⟩ := new_arrays_agree_with_copies .int16 1 1
  obtain ⟨-, unpacking⟩ := new_arrays_agree_with_copies .int16 0 2
  have packed : (pack (t := .int16) (some [⟨5⟩, ⟨0xFF80⟩]) 1 1).outcome = .ok [-1, -128] := by
    decide
  have short : (unpack .int16 (some [1, 2, 3]) 0 2).outcome =
      .error (.outOfRange ⟨.bytes, .pastEnd 4 3⟩) := by decide
  exact ⟨((packing _).ok _).1 packed, ((unpacking (some _)).error _ nofun).1 short,
    (unpacking none).missing rfl⟩

end BytePacking.Host
