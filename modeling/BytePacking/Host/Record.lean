import BytePacking.Host.Exception

/-!
# Records of the log

Calls from the host leave records in a log: a copy is traced when it is called, with its arguments
as they came, and every exception is recorded when it is raised.
-/

set_option autoImplicit false

namespace BytePacking.Host

/-- The importance of a record. -/
inductive Level where
  /-- What helps to find a fault. -/
  | debug
  /-- What a call does, step by step. -/
  | trace
  deriving Repr, DecidableEq

/-- The name of a level in the log. -/
def Level.label : Level → String
  | .debug => "DEBUG"
  | .trace => "TRACE"

/-- One line of the log. -/
structure Record where
  /-- How important the record is. -/
  level : Level
  /-- What the record says. -/
  text : String
  deriving Repr, DecidableEq

namespace Record

/-- A copy of `length` elements of `width` bytes each to the bytes at `start` is called for. -/
def packing (length : Int32) (width : Nat) (start : Int32) : Record where
  level := .trace
  text := "copy " ++ toString length.toInt ++ " elements of width " ++ toString width ++
    " to bytes at " ++ toString start.toInt

/-- A copy of `length` elements of `width` bytes each from the bytes at `start` is called for. -/
def unpacking (length : Int32) (width : Nat) (start : Int32) : Record where
  level := .trace
  text := "copy " ++ toString length.toInt ++ " elements of width " ++ toString width ++
    " from bytes at " ++ toString start.toInt

/-- An exception is raised.  For a missing array the record has the short name of the class and the
name of the argument, for a refused range the class as the host names it and the message. -/
def raising (e : Exception) : Record where
  level := .debug
  text :=
    match e with
    | .nullArgument argument => "raising NullPointerException: " ++ argument ++ " is null"
    | .outOfRange _ => "raising " ++ e.hostClass.name ++ ": " ++ e.message

/-- Every exception is recorded at the same level. -/
@[simp] theorem level_raising (e : Exception) : (raising e).level = .debug := rfl

/-- The record of a missing array ends with the message of the exception. -/
theorem text_raising_nullArgument (argument : String) :
    (raising (.nullArgument argument)).text =
      "raising NullPointerException: " ++ (Exception.nullArgument argument).message :=
  String.append_assoc

/-- The record of a refused range ends with the class and the message as the exception shows
them. -/
theorem text_raising_outOfRange (error : RangeError) :
    (raising (.outOfRange error)).text = "raising " ++ (Exception.outOfRange error).display := by
  let e := Exception.outOfRange error
  calc (raising e).text
      = "raising " ++ (e.hostClass.name ++ (": " ++ e.message)) :=
        String.append_assoc.trans String.append_assoc
    _ = "raising " ++ e.display := congrArg ("raising " ++ ·) String.append_assoc.symm

end Record

end BytePacking.Host
