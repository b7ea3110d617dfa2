import BytePacking.Host.Pack
import BytePacking.Host.Unpack

/-!
# The number types of the host

Five of the element types are number types of the host, known there by names of their own.  For each
of them the host has four calls: it packs and unpacks, each into an array of its own or into a new
one.  These twenty calls are its entry points, and each has a name that is made of the name of the
number type and tells it from all others (`EntryPoint.ofName?_name`).
-/

set_option autoImplicit false

namespace BytePacking.Host

/-- A number type of the host. -/
inductive Primitive where
  /-- Numbers of two bytes with a sign. -/
  | short
  /-- Numbers of four bytes with a sign. -/
  | int
  /-- Numbers of eight bytes with a sign. -/
  | long
  /-- Floating-point numbers of four bytes. -/
  | float
  /-- Floating-point numbers of eight bytes. -/
  | double
  deriving Repr, DecidableEq

namespace Primitive

/-- All number types of the host. -/
def all : List Primitive := [short, int, long, float, double]

/-- The name of a number type in the names of its calls. -/
def name : Primitive → String
  | short => "short"
  | int => "int"
  | long => "long"
  | float => "float"
  | double => "double"

/-- The element type that a number type of the host is. -/
def elementType : Primitive → ElementType
  | short => .int16
  | int => .int32
  | long => .int64
  | float => .float32
  | double => .float64

variable (p : Primitive)

/-- Writes `len` numbers of `inData` from `inStart` on over the bytes of `outData` from `outStart`
on. -/
def packInto (inData : Option (List (Element p.elementType))) (inStart : Int32)
    (outData : Option (List Int8)) (outStart len : Int32) : Copied Int8 :=
  Host.packInto inData inStart outData outStart len

/-- Reads `len` numbers from the bytes of `inData` from `inStart` on into the slots of `outData`
from `outStart` on. -/
def unpackInto (inData : Option (List Int8)) (inStart : Int32)
    (outData : Option (List (Element p.elementType))) (outStart len : Int32) :
    Copied (Element p.elementType) :=
  Host.unpackInto inData inStart outData outStart len

/-- The bytes of `len` numbers of `data` from `start` on, in a new array. -/
def pack (data : Option (List (Element p.elementType))) (start len : Int32) : Reply (List Int8) :=
  Host.pack data start len

/-- The `len` numbers from byte `start` of `data` on, in a new array. -/
def unpack (data : Option (List Int8)) (start len : Int32) :
    Reply (List (Element p.elementType)) :=
  Host.unpack p.elementType data start len

end Primitive

/-! ## Names of the calls -/

/-- What an entry point does. -/
inductive Operation where
  /-- It writes numbers over bytes of the host. -/
  | packInto
  /-- It reads numbers into an array of the host. -/
  | unpackInto
  /-- It makes an array of the bytes of numbers. -/
  | pack
  /-- It makes an array of the numbers in bytes. -/
  | unpack
  deriving Repr, DecidableEq

/-- All that an entry point may do. -/
def Operation.all : List Operation := [packInto, unpackInto, pack, unpack]

/-- A call that the host knows by name. -/
structure EntryPoint where
  /-- The number type. -/
  primitive : Primitive
  /-- What is done with numbers of this type. -/
  operation : Operation
  deriving Repr, DecidableEq

namespace EntryPoint

/-- The name under which the host calls an entry point. -/
def name (e : EntryPoint) : String :=
  match e.operation with
  | .packInto => "copy_" ++ e.primitive.name ++ "_to_byte"
  | .unpackInto => "copy_byte_to_" ++ e.primitive.name
  | .pack => e.primitive.name ++ "_to_byte"
  | .unpack => "byte_to_" ++ e.primitive.name

/-- All entry points, number type by number type. -/
def all : List EntryPoint :=
  Primitive.all.flatMap fun primitive => Operation.all.map (⟨primitive, ·⟩)

/-- The entry point of the given name. -/
def ofName? (name : String) : Option EntryPoint := all.find? (·.name = name)

/-- An entry point is found under its name. -/
theorem ofName?_name (e : EntryPoint) : ofName? e.name = some e := by
  obtain ⟨primitive, operation⟩ := e
  cases primitive <;> cases operation <;> decide

example : ofName? "copy_byte_to_short" = some ⟨.short, .unpackInto⟩ := by decide

/-- No two entry points have the same name. -/
theorem name_inj {e e' : EntryPoint} : e.name = e'.name ↔ e = e' := by
  constructor
  · intro same
    apply Option.some.inj
    rw [← ofName?_name e, ← ofName?_name e', same]
  · rintro rfl
    rfl

end EntryPoint

end BytePacking.Host
