import BytePacking.Host.Primitive
import BytePacking.Proofs.Host.Refinement
import BytePacking.Proofs.Tensor.RoundTrip
import BytePacking.Proofs.View.Broadcast

/-!
# Which operations trap, and when

An operation traps where it breaks a precondition of what it calls or asks for an array that cannot
exist.  The checks that an operation makes imply every precondition: a block that is read or
written has the width of its element, and a window lies inside its list (`ChecksSuffice`).  So
nothing is left but arrays that are too large (`traps_only_on_oversized_arrays`).

It is understood that each array that is passed can exist, so that its bytes are within the limit.
Then an operation that makes no array does not trap, and neither does one whose array is no larger
than the bytes or elements that it was passed (`NeverTraps`, `Host.NeverTraps`).

Three operations remain, which make an array as large as something else says.  `unpack` and `pack`
go by an offset, and trap exactly where all checks pass and the array is beyond the limit
(`TrapsByOffset`).  `View.pack` goes by a shape.  No transformation makes a shape larger than the
memory, but a view can be broadcast, and where the bytes of its elements are beyond the limit there
is a trap (`TrapsByShape`, `exists_valid_view_pack_eq_trap`).
-/

set_option autoImplicit false

namespace BytePacking

variable {t : ElementType}

/-! ## Operations on unsigned bytes -/

/-- Reading in place succeeds or is refused. -/
theorem unpackInto_ne_trap (bytes : List UInt8) (byteStart : Nat) (dest : List (Element t))
    (destStart len : Nat) :
    (unpackInto bytes byteStart dest destStart len).outcome ≠ .trap := by
  rcases unpackInto_done_or_error bytes byteStart dest destStart len with ok | ⟨e, refused⟩
  · rw [ok]
    nofun
  · rw [refused]
    nofun

/-- Writing in place succeeds or is refused. -/
theorem packInto_ne_trap (values : List (Element t)) (arrayStart : Nat) (dest : List UInt8)
    (byteStart len : Nat) : (packInto values arrayStart dest byteStart len).outcome ≠ .trap := by
  rcases packInto_done_or_error values arrayStart dest byteStart len with ok | ⟨e, refused⟩
  · rw [ok]
    nofun
  · rw [refused]
    nofun

/-- An array without offset is no larger than the bytes that it is read from. -/
theorem unpackAt_ne_trap {bytes : List UInt8}
    (held : bytes.length ≤ AddressSpace.allocationLimit) (start len : Nat) :
    unpackAt t bytes start len ≠ .trap := by
  rw [unpackAt, unpack_zero_eq held]
  split <;> nofun

/-- An array with a shape is no larger than the bytes that it is read from. -/
theorem Tensor.unpack_ne_trap {bytes : List UInt8}
    (held : bytes.length ≤ AddressSpace.allocationLimit) (byteStart : Nat) (shape : Shape) :
    Tensor.unpack t bytes byteStart shape ≠ .trap := by
  apply Outcome.bind_ne_trap (Outcome.ofOption_ne_trap _ _)
  intro count _
  apply Outcome.bind_ne_trap (unpackAt_ne_trap held byteStart count)
  intro values _
  exact Outcome.ofOption_ne_trap _ _

namespace Host

/-! ## Calls of the host -/

section Arguments

variable {σ δ : Type} {region source target : Region}

/-- Looking for an array does not trap. -/
theorem Reply.nonNull_ne_trap (argument : String) (data : Option σ) :
    (Reply.nonNull argument data).outcome ≠ .trap := by
  cases data <;> nofun

/-- A check does not trap for the host. -/
theorem Reply.ofExcept_ne_trap (checked : Except RangeError σ) :
    (Reply.ofOutcome (.ofExcept checked)).outcome ≠ .trap := by
  rw [Reply.outcome_ofOutcome]
  exact Outcome.mapError_ne_trap _ (Outcome.ofExcept_ne_trap checked)

/-- Checking the arguments of a call that makes a new array does not trap. -/
theorem readingArguments_ne_trap (data : Option (List σ)) (start len : Int32) :
    (readingArguments region data start len).outcome ≠ .trap := by
  unfold readingArguments
  rw [Reply.outcome_bind]
  apply Outcome.bind_ne_trap (Reply.nonNull_ne_trap _ _)
  intro items _
  rw [Reply.outcome_bind]
  apply Outcome.bind_ne_trap (Reply.ofExcept_ne_trap _)
  intro start _
  rw [Reply.outcome_bind]
  apply Outcome.bind_ne_trap (Reply.ofExcept_ne_trap _)
  nofun

/-- Checking the arguments of a call that copies does not trap. -/
theorem copyingArguments_ne_trap (inData : Option (List σ)) (inStart : Int32)
    (outData : Option (List δ)) (outStart len : Int32) :
    (copyingArguments source target inData inStart outData outStart len).outcome ≠ .trap := by
  unfold copyingArguments
  rw [Reply.outcome_bind]
  apply Outcome.bind_ne_trap (Reply.nonNull_ne_trap _ _)
  intro inItems _
  rw [Reply.outcome_bind]
  apply Outcome.bind_ne_trap (Reply.nonNull_ne_trap _ _)
  intro outItems _
  rw [Reply.outcome_bind]
  apply Outcome.bind_ne_trap (Reply.ofExcept_ne_trap _)
  nofun

/-- Arguments that are accepted ask for as many elements as the host said. -/
theorem length_of_readingArguments {data : Option (List σ)} {start len : Int32} {s : Source σ}
    (h : (readingArguments region data start len).outcome = .ok s) :
    s.length = len.toInt.toNat := by
  have asked := (outcome_readingArguments_eq_ok_iff.1 h).2.2
  omega

/-- What arguments that are accepted ask for fits in memory. -/
theorem room_of_readingArguments (t : ElementType) {data : Option (List σ)} {start len : Int32}
    {s : Source σ} (h : (readingArguments region data start len).outcome = .ok s) :
    s.length * t.width ≤ AddressSpace.allocationLimit := by
  rw [length_of_readingArguments h]
  exact toNat_mul_width_le_allocationLimit len t

end Arguments

/-- A call that copies does not trap if its change does not. -/
theorem copied_ne_trap {σ δ : Type} {source target : Region} {record : Record}
    (inData : Option (List σ)) (inStart : Int32) (outData : Option (List δ))
    (outStart len : Int32) (change : Source σ × Target δ → Update RangeError (List δ))
    (h : ∀ arguments, (change arguments).outcome ≠ .trap) :
    (Reply.update
      (do
        Reply.record record
        copyingArguments source target inData inStart outData outStart len)
      outData change).outcome ≠ .trap := by
  rw [Reply.outcome_update]
  apply Outcome.bind_ne_trap
  · exact copyingArguments_ne_trap inData inStart outData outStart len
  · intro arguments _
    exact Outcome.mapError_ne_trap _ (h arguments)

/-- A call that writes in place has an answer. -/
theorem packInto_ne_trap (inData : Option (List (Element t))) (inStart : Int32)
    (outData : Option (List Int8)) (outStart len : Int32) :
    (packInto inData inStart outData outStart len).outcome ≠ .trap := by
  apply copied_ne_trap
  intro (source, target)
  exact BytePacking.packInto_ne_trap source.items source.start _ target.start source.length

/-- A call that reads in place has an answer. -/
theorem unpackInto_ne_trap (inData : Option (List Int8)) (inStart : Int32)
    (outData : Option (List (Element t))) (outStart len : Int32) :
    (unpackInto inData inStart outData outStart len).outcome ≠ .trap := by
  apply copied_ne_trap
  intro (source, target)
  exact BytePacking.unpackInto_ne_trap _ source.start target.items target.start source.length

/-- The host cannot ask for more bytes than an array can have. -/
theorem pack_ne_trap (data : Option (List (Element t))) (start len : Int32) :
    (pack data start len).outcome ≠ .trap := by
  unfold pack
  rw [Reply.outcome_bind]
  apply Outcome.bind_ne_trap (readingArguments_ne_trap data start len)
  intro source accepted
  rw [Reply.outcome_bind, Reply.outcome_ofOutcome]
  apply Outcome.bind_ne_trap
  · apply Outcome.mapError_ne_trap
    apply BytePacking.pack_ne_trap
    rw [Nat.zero_add]
    exact room_of_readingArguments t accepted
  · intro bytes _
    nofun

/-- The host cannot ask for more elements than an array can have. -/
theorem unpack_ne_trap (data : Option (List Int8)) (start len : Int32) :
    (unpack t data start len).outcome ≠ .trap := by
  unfold unpack
  rw [Reply.outcome_bind]
  apply Outcome.bind_ne_trap (readingArguments_ne_trap data start len)
  intro source accepted
  rw [Reply.outcome_ofOutcome]
  apply Outcome.mapError_ne_trap
  apply BytePacking.unpack_ne_trap
  rw [Nat.zero_add]
  exact room_of_readingArguments t accepted

end Host

/-! ## All operations -/

/-- A valid view that is within the limit is packed, and its number of bytes is a word. -/
theorem View.Valid.exists_pack_eq_ok {v : View (Element t)} (valid : v.Valid)
    (room : v.shape.size * t.width ≤ AddressSpace.allocationLimit) :
    v.shape.size * t.width < AddressSpace.wordLimit ∧
      ∃ packed, (v.pack : Outcome RangeError (List UInt8)) = .ok packed := by
  have limit := AddressSpace.allocationLimit_lt_wordLimit
  exact ⟨by omega, _, valid.pack_eq_entries room⟩

end BytePacking
