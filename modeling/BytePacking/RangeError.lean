/-!
# Why a range is refused

Every refusal concerns a range of one of two regions, the byte buffer or the array of elements,
and has one of four causes.  `RangeError.message` is the text for a reader of the error;
`RangeError.structuralText` spells out the constructors and fields, for a reader of the program.

The causes that speak of negative numbers arise where indices are signed, at the host boundary.
-/

set_option autoImplicit false

namespace BytePacking

/-- The side of a conversion on which a range lies. -/
inductive Region where
  /-- The byte buffer. -/
  | bytes
  /-- The array of elements. -/
  | elements
  deriving Repr, DecidableEq

/-- What is wrong with a range. -/
inductive Cause where
  /-- Its start is the negative number `value`. -/
  | negativeStart (value : Int)
  /-- Its length is the negative number `value`. -/
  | negativeLength (value : Int)
  /-- Its end is not a machine word. -/
  | overflow
  /-- Its end `stop` is beyond the `capacity` of the region. -/
  | pastEnd (stop capacity : Nat)
  deriving Repr, DecidableEq

/-- The refusal of a range. -/
structure RangeError where
  /-- The region in which the range lies. -/
  region : Region
  /-- What is wrong with the range. -/
  cause : Cause
  deriving Repr, DecidableEq

/-! ## Texts for a reader of the error -/

/-- The word for a region in a message. -/
def Region.message : Region → String
  | .bytes => "byte"
  | .elements => "element"

/-- The message of a cause.  Numbers are in decimal. -/
def Cause.message : Cause → String
  | .negativeStart value => "negative start " ++ toString value
  | .negativeLength value => "negative length " ++ toString value
  | .overflow => "range end overflows"
  | .pastEnd stop capacity =>
    "range ends at " ++ toString stop ++ " but capacity is " ++ toString capacity

/-- The message of an error: its region, then its cause. -/
def RangeError.message (e : RangeError) : String :=
  e.region.message ++ " range out of bounds: " ++ e.cause.message

/-! ## Texts for a reader of the program -/

/-- The constructor of a region. -/
def Region.structuralText : Region → String
  | .bytes => "Bytes"
  | .elements => "Elements"

/-- The constructor of a cause and its fields. -/
def Cause.structuralText : Cause → String
  | .negativeStart value => "NegativeStart(" ++ toString value ++ ")"
  | .negativeLength value => "NegativeLength(" ++ toString value ++ ")"
  | .overflow => "Overflow"
  | .pastEnd stop capacity =>
    "PastEnd \x7b end: " ++ toString stop ++ ", capacity: " ++ toString capacity ++ " \x7d"

/-- The constructor of an error and its fields. -/
def RangeError.structuralText (e : RangeError) : String :=
  "OutOfBounds \x7b region: " ++ e.region.structuralText ++
    ", cause: " ++ e.cause.structuralText ++ " \x7d"

end BytePacking
