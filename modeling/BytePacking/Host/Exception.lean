import BytePacking.RangeError

/-!
# Exceptions of the host

The host runtime knows failures as exceptions, each of some class and with a message.  Two classes
are raised: one for an array that is missing, and one for a range that is refused.  The class names
are those by which the host finds the classes.
-/

set_option autoImplicit false

namespace BytePacking.Host

/-- The classes of the host whose exceptions are raised. -/
inductive HostClass where
  /-- A required array is null. -/
  | nullPointer
  /-- An index or a length lies outside an array. -/
  | indexOutOfBounds
  deriving Repr, DecidableEq

/-- The name of a class in the host. -/
def HostClass.name : HostClass → String
  | .nullPointer => "java/lang/NullPointerException"
  | .indexOutOfBounds => "java/lang/IndexOutOfBoundsException"

/-- A failure in the terms of the host. -/
inductive Exception where
  /-- The argument of this name is null. -/
  | nullArgument (argument : String)
  /-- A range is refused, for the given reason. -/
  | outOfRange (error : RangeError)
  deriving Repr, DecidableEq

namespace Exception

/-- The class of an exception. -/
def hostClass : Exception → HostClass
  | nullArgument _ => .nullPointer
  | outOfRange _ => .indexOutOfBounds

/-- The message that the host shows. -/
def message : Exception → String
  | nullArgument argument => argument ++ " is null"
  | outOfRange error => error.message

/-- The refusal that led to an exception. -/
def source : Exception → Option RangeError
  | nullArgument _ => none
  | outOfRange error => some error

/-- The class and the message of an exception in one text. -/
def display (e : Exception) : String := e.hostClass.name ++ ": " ++ e.message

/-- A missing array is an exception of the one class. -/
@[simp] theorem hostClass_nullArgument (argument : String) :
    (nullArgument argument).hostClass = .nullPointer := rfl

/-- A refused range is an exception of the other. -/
@[simp] theorem hostClass_outOfRange (error : RangeError) :
    (outOfRange error).hostClass = .indexOutOfBounds := rfl

/-- No refusal is behind a missing array. -/
@[simp] theorem source_nullArgument (argument : String) : (nullArgument argument).source = none :=
  rfl

/-- The refusal of a range is kept. -/
@[simp] theorem source_outOfRange (error : RangeError) : (outOfRange error).source = some error :=
  rfl

/-- An exception with a refusal behind it is the one for this refusal. -/
theorem source_eq_some_iff {e : Exception} {error : RangeError} :
    e.source = some error ↔ e = outOfRange error := by
  cases e <;> simp

end Exception

end BytePacking.Host
