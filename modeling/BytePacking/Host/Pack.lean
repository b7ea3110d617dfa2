import BytePacking.Host.Argument
import BytePacking.Pack

/-!
# From elements to bytes of the host

The calls by which the host packs elements: into a byte array of its own, or into a new one.  Each
checks its arguments and leaves the rest to the operation on unsigned bytes.  A negative length is
reported on the side that is read, that of the elements.
-/

set_option autoImplicit false

namespace BytePacking.Host

variable {t : ElementType}

/-- Writes `len` elements of `inData` from `inStart` on over the bytes of `outData` from `outStart`
on. -/
def packInto (inData : Option (List (Element t))) (inStart : Int32) (outData : Option (List Int8))
    (outStart len : Int32) : Copied Int8 :=
  let arguments := do
    Reply.record (.packing len t.width outStart)
    copyingArguments .elements .bytes inData inStart outData outStart len
  arguments.update outData fun (source, target) =>
    (BytePacking.packInto source.items source.start (unsigned target.items) target.start
      source.length).map signed

/-- The bytes of `len` elements of `data` from `start` on, in a new array. -/
def pack (data : Option (List (Element t))) (start len : Int32) : Reply (List Int8) := do
  let source ← readingArguments .elements data start len
  let bytes ← Reply.ofOutcome (BytePacking.pack source.items source.start 0 source.length)
  return signed bytes

end BytePacking.Host
