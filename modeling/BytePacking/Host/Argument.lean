import BytePacking.Host.Reply

/-!
# Arguments from the host

The host passes indices and lengths as signed 32-bit numbers, arrays that may be null, and bytes
that are signed.  This module checks such arguments, in the order in which the host is told of
their faults: null arrays first, then the start and the length on the side that is read, then the
start on the side that is written.

A byte keeps its eight bits when it changes sides (`unsigned_signed`, `signed_unsigned`).
-/

set_option autoImplicit false

namespace BytePacking.Host

/-! ## Indices and lengths -/

/-- A start index, unless it is negative. -/
def nonnegativeStart (region : Region) (value : Int32) : Except RangeError Nat :=
  if value.toInt < 0 then .error ⟨region, .negativeStart value.toInt⟩ else .ok value.toInt.toNat

/-- A length, unless it is negative. -/
def nonnegativeLength (region : Region) (value : Int32) : Except RangeError Nat :=
  if value.toInt < 0 then .error ⟨region, .negativeLength value.toInt⟩ else .ok value.toInt.toNat

/-- A start index that is not negative is accepted as it is. -/
theorem nonnegativeStart_eq_ok {region : Region} {value : Int32} (h : 0 ≤ value.toInt) :
    nonnegativeStart region value = .ok value.toInt.toNat :=
  if_neg (Int.not_lt.2 h)

/-- A negative start index is refused. -/
theorem nonnegativeStart_eq_error {region : Region} {value : Int32} (h : value.toInt < 0) :
    nonnegativeStart region value = .error ⟨region, .negativeStart value.toInt⟩ :=
  if_pos h

/-- A length that is not negative is accepted as it is. -/
theorem nonnegativeLength_eq_ok {region : Region} {value : Int32} (h : 0 ≤ value.toInt) :
    nonnegativeLength region value = .ok value.toInt.toNat :=
  if_neg (Int.not_lt.2 h)

/-- A negative length is refused. -/
theorem nonnegativeLength_eq_error {region : Region} {value : Int32} (h : value.toInt < 0) :
    nonnegativeLength region value = .error ⟨region, .negativeLength value.toInt⟩ :=
  if_pos h

/-! ## Arguments of a call -/

/-- Where a call reads: some items of an array. -/
structure Source (σ : Type) where
  /-- The items of the array. -/
  items : List σ
  /-- The first position. -/
  start : Nat
  /-- The number of elements to read. -/
  length : Nat
  deriving Repr, DecidableEq

/-- Where a call writes: an array, from some position on. -/
structure Target (δ : Type) where
  /-- The items of the array. -/
  items : List δ
  /-- The first position. -/
  start : Nat
  deriving Repr, DecidableEq

section Arguments

variable {σ δ : Type}

/-- The arguments of a call that makes a new array: its start, and then its length. -/
def readingArguments (region : Region) (data : Option (List σ)) (start length : Int32) :
    Reply (Source σ) := do
  let items ← Reply.nonNull "data" data
  let start ← Reply.ofOutcome (.ofExcept (nonnegativeStart region start))
  let length ← Reply.ofOutcome (.ofExcept (nonnegativeLength region length))
  return { items, start, length }

/-- The arguments of a call that copies from one array to another.  The first fault among its
numbers is raised. -/
def copyingArguments (source target : Region) (inData : Option (List σ)) (inStart : Int32)
    (outData : Option (List δ)) (outStart length : Int32) : Reply (Source σ × Target δ) := do
  let inItems ← Reply.nonNull "inData" inData
  let outItems ← Reply.nonNull "outData" outData
  let numbers : Except RangeError (Nat × Nat × Nat) := do
    let inStart ← nonnegativeStart source inStart
    let length ← nonnegativeLength source length
    let outStart ← nonnegativeStart target outStart
    return (inStart, length, outStart)
  let (inStart, length, outStart) ← Reply.ofOutcome (.ofExcept numbers)
  return ({ items := inItems, start := inStart, length }, { items := outItems, start := outStart })

end Arguments

/-! ## Signed bytes -/

/-- The bytes of the host as unsigned bytes. -/
def unsigned (bytes : List Int8) : List UInt8 := bytes.map Int8.toUInt8

/-- Unsigned bytes as bytes of the host. -/
def signed (bytes : List UInt8) : List Int8 := bytes.map UInt8.toInt8

/-- No byte is lost on the way from the host. -/
@[simp] theorem length_unsigned (bytes : List Int8) : (unsigned bytes).length = bytes.length :=
  List.length_map ..

/-- No byte is lost on the way to the host. -/
@[simp] theorem length_signed (bytes : List UInt8) : (signed bytes).length = bytes.length :=
  List.length_map ..

/-- Bytes of the host may be taken over piece by piece. -/
@[simp] theorem unsigned_append (xs ys : List Int8) :
    unsigned (xs ++ ys) = unsigned xs ++ unsigned ys :=
  List.map_append

/-- Bytes may be handed to the host piece by piece. -/
@[simp] theorem signed_append (xs ys : List UInt8) : signed (xs ++ ys) = signed xs ++ signed ys :=
  List.map_append

/-- Bytes that were handed to the host come back as they were. -/
@[simp] theorem unsigned_signed (bytes : List UInt8) : unsigned (signed bytes) = bytes := by
  simp [signed, unsigned, Function.comp_def]

/-- Bytes of the host are handed back as they were. -/
@[simp] theorem signed_unsigned (bytes : List Int8) : signed (unsigned bytes) = bytes := by
  simp [signed, unsigned, Function.comp_def]

end BytePacking.Host
