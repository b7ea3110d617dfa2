import BytePacking.Host.Argument
import BytePacking.Unpack

/-!
# From bytes of the host to elements

The calls by which the host unpacks elements: into an array of its own, or into a new one.  Each
checks its arguments and leaves the rest to the operation on unsigned bytes.  A negative length is
reported on the side that is read, that of the bytes.
-/

set_option autoImplicit false

namespace BytePacking.Host

variable {t : ElementType}

/-- Reads `len` elements from the bytes of `inData` from `inStart` on into the slots of `outData`
from `outStart` on. -/
def unpackInto (inData : Option (List Int8)) (inStart : Int32)
    (outData : Option (List (Element t))) (outStart len : Int32) : Copied (Element t) :=
  let arguments := do
    Reply.record (.unpacking len t.width inStart)
    copyingArguments .bytes .elements inData inStart outData outStart len
  arguments.update outData fun (source, target) =>
    BytePacking.unpackInto (unsigned source.items) source.start target.items target.start
      source.length

/-- The `len` elements from byte `start` of `data` on, in a new array. -/
def unpack (t : ElementType) (data : Option (List Int8)) (start len : Int32) :
    Reply (List (Element t)) := do
  let source ← readingArguments .bytes data start len
  Reply.ofOutcome (BytePacking.unpack t (unsigned source.items) source.start 0 source.length)

end BytePacking.Host
