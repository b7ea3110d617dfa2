import BytePacking.Proofs.Host.RoundTrip
import BytePacking.Proofs.View.Reading
import BytePacking.Proofs.WriteHistory

/-!
# All ways to pack give the same bytes

The bytes of a list of elements are those of its elements, one behind the other.  There are many
ways to them: all elements at once, a range of them behind an offset, each element on its own, a
view that presents them, a call of the host, or a store for each element into a buffer that held
anything before.  They all give the same bytes (`packing_paths_agree`), although each has a loop and
a computation of the size of its own.

For the stores the order does not matter.  Each of them puts bytes of the list at their places, and
together they reach every place, so the last write over a position is always one that agrees with
the list (`Write.run_storing`).
-/

set_option autoImplicit false

namespace BytePacking

variable {t : ElementType}

/-! ## One element -/

/-- Storing an element is packing a list of one. -/
theorem store_eq_packInto (v : Element t) (dest : List UInt8) (start : Nat) :
    store v dest start = packInto [v] 0 dest start 1 := by
  have array : Window.Fits [v].length 0 1 := ⟨by decide, Nat.le_refl 1⟩
  rw [store_eq, packInto_eq, if_pos array, Nat.one_mul]
  simp

/-- The write that stores one element of a list at its place among the bytes of the list. -/
def Write.storing (values : List (Element t)) (i : Fin values.length) : Write :=
  ⟨t, .store values[i] (i * t.width)⟩

section Storing

variable {values : List (Element t)}

/-- There is room for every element of a list at its place. -/
theorem Write.outcome_perform_storing {buffer : List UInt8} (i : Fin values.length)
    (held : values.length * t.width ≤ AddressSpace.allocationLimit)
    (room : buffer.length = values.length * t.width) :
    ((storing values i).perform buffer).outcome = .ok () := by
  have limit := AddressSpace.allocationLimit_lt_wordLimit
  have inside : i * t.width + t.width ≤ values.length * t.width := t.mul_width_add_width_le i.isLt
  have bytes : Window.Fits buffer.length (i * t.width) t.width := ⟨by omega, by omega⟩
  simp only [storing, perform, store_eq, if_pos bytes]
  rfl

/-- What the store of an element puts somewhere is the byte of the list there. -/
theorem Write.getElem?_of_puts_storing {i : Fin values.length} {p : Nat} {b : UInt8}
    (h : (storing values i).Puts p b) : (values.flatMap Element.toBytes)[p]? = some b := by
  obtain ⟨k, j, v, hk, hj, rfl, element, byte⟩ := h
  obtain rfl : k = 0 := Nat.lt_one_iff.1 hk
  obtain rfl : values[i] = v := Option.some.inj element
  show (values.flatMap Element.toBytes)[i * t.width + 0 * t.width + j]? = some b
  rw [Nat.zero_mul, Nat.add_zero, Element.getElem?_flatMap_toBytes values i hj,
    List.getElem?_eq_getElem i.isLt]
  exact byte

/-- Every byte of the list belongs to the place of some element. -/
theorem Write.exists_storing_covers {p : Nat} (h : p < values.length * t.width) :
    ∃ i, (storing values i).Covers p := by
  have element : p / t.width < values.length := (Nat.div_lt_iff_lt_mul t.width_pos).2 h
  refine ⟨⟨p / t.width, element⟩, Nat.div_mul_le_self p t.width, ?_⟩
  show p < p / t.width * t.width + 1 * t.width
  rw [Nat.one_mul]
  exact Nat.lt_div_mul_add t.width_pos

/-- Storing the elements of a list one by one, in any order and as often as one likes, leaves the
bytes of the list if no element is left out. -/
theorem Write.run_storing {order : List (Fin values.length)} {buffer : List UInt8}
    (held : values.length * t.width ≤ AddressSpace.allocationLimit) (all : ∀ i, i ∈ order)
    (room : buffer.length = values.length * t.width) :
    (run (order.map (storing values)) buffer).outcomes = List.replicate order.length (.ok ()) ∧
      (run (order.map (storing values)) buffer).buffer = values.flatMap Element.toBytes := by
  have succeed : ∀ w ∈ order.map (storing values), (w.perform buffer).outcome = .ok () := by
    intro w h
    obtain ⟨i, -, rfl⟩ := List.mem_map.1 h
    exact outcome_perform_storing i held room
  constructor
  · rw [(outcomes_run _ rfl).1, List.eq_replicate_iff]
    constructor
    · rw [List.length_map, List.length_map]
    · intro o h
      obtain ⟨w, member, rfl⟩ := List.mem_map.1 h
      exact succeed w member
  · apply List.ext_getElem?
    intro p
    apply getElem?_run_of_agree succeed
    · intro w h b puts
      obtain ⟨i, -, rfl⟩ := List.mem_map.1 h
      exact getElem?_of_puts_storing puts
    · by_cases inside : p < values.length * t.width
      · obtain ⟨i, covers⟩ := exists_storing_covers inside
        exact .inr ⟨_, List.mem_map_of_mem (all i), covers⟩
      · left
        rw [List.getElem?_eq_none (by omega),
          List.getElem?_eq_none (by rw [Element.length_flatMap_toBytes]; omega)]

end Storing

/-! ## All elements -/

section All

variable {values : List (Element t)}

/-- The range of all elements is packed without an offset to their bytes. -/
theorem pack_all (held : values.length * t.width ≤ AddressSpace.allocationLimit) :
    pack values 0 0 values.length = .ok (values.flatMap Element.toBytes) := by
  have limit := AddressSpace.allocationLimit_lt_wordLimit
  have few : values.length ≤ values.length * t.width := t.le_mul_width _
  have array : Window.Fits values.length 0 values.length := ⟨by omega, by omega⟩
  rw [pack_eq, if_pos array, if_pos (by omega), if_pos (by omega)]
  simp

/-- Each element of a list is packed to its bytes. -/
theorem mapM_packOne {ε : Type} (values : List (Element t)) :
    (values.mapM packOne : Outcome ε (List (List UInt8))) = .ok (values.map Element.toBytes) := by
  apply Outcome.mapM_eq_ok
  rw [List.map_map]
  exact List.map_congr_left fun v _ => packOne_eq_ok v

/-- An array that lies in logical order is packed as the list of its elements. -/
theorem View.pack_rowMajor {ε : Type} {shape : Shape} {whole : View (Element t)}
    (held : values.length * t.width ≤ AddressSpace.allocationLimit)
    (based : ofList? .rowMajor shape values = some whole) :
    (whole.pack : Outcome ε (List UInt8)) = .ok (values.flatMap Element.toBytes) := by
  obtain ⟨⟨count, allocatable⟩, same⟩ := Option.ite_none_right_eq_some.1 based
  obtain rfl := Option.some.inj same
  have size : values.length = (base .rowMajor shape values).shape.size := by
    rwa [shape_base]
  exact pack_eq_ok (by rwa [← size]) (elements_view ⟨shape, values, count, allocatable⟩) size

/-- A list that can be held in memory is an array with one axis. -/
theorem View.exists_ofList?_singleton
    (held : values.length * t.width ≤ AddressSpace.allocationLimit) :
    ∃ row, ofList? .rowMajor [values.length] values = some row := by
  have few : values.length ≤ values.length * t.width := t.le_mul_width _
  have allocatable : Shape.Allocatable [values.length] :=
    Shape.allocatable_singleton.2 (Nat.le_trans few held)
  exact ⟨_, if_pos ⟨(Nat.mul_one _).symm, allocatable⟩⟩

/-- For the host a list of no more elements than it can count is packed to their bytes. -/
theorem Host.exists_pack_all (held : values.length * t.width ≤ AddressSpace.allocationLimit)
    (few : values.length ≤ 2147483647) :
    ∃ packed, (Host.pack (some values) 0 (Int32.ofNat values.length)).outcome = .ok packed ∧
      unsigned packed = values.flatMap Element.toBytes := by
  have count : (Int32.ofNat values.length).toInt = values.length :=
    Int32.toInt_ofNat_of_lt (by omega)
  have refines : (Host.pack (some values) 0 (Int32.ofNat values.length)).Refines signed
      (BytePacking.pack values 0 0 (Int32.ofNat values.length).toInt.toNat) :=
    pack_refines values (by decide) (by omega)
  rw [count, Int.toNat_natCast, pack_all held] at refines
  exact ⟨_, refines.of_ok, unsigned_signed _⟩

end All

/-- The bytes of the elements of a list, one behind the other, are what all ways to pack them give,
provided that there is room for them in memory: packing all elements or the range of all of them,
packing each of them on its own and joining the results, storing them one by one over any bytes in
any order, packing the list as an array with one axis or of any shape in logical order, and a call
of the host.  Storing a single element is packing a list of one, whatever the arguments are. -/
theorem packing_paths_agree (values : List (Element t)) :
    (values.length * t.width ≤ AddressSpace.allocationLimit →
      (packAll values : Outcome RangeError (List UInt8)) = .ok (values.flatMap Element.toBytes) ∧
      pack values 0 0 values.length = .ok (values.flatMap Element.toBytes) ∧
      (∃ blocks, (values.mapM packOne : Outcome RangeError (List (List UInt8))) = .ok blocks ∧
        blocks.flatten = values.flatMap Element.toBytes) ∧
      (∀ (order : List (Fin values.length)) (buffer : List UInt8), (∀ i, i ∈ order) →
        buffer.length = values.length * t.width →
        (Write.run (order.map (Write.storing values)) buffer).outcomes =
            List.replicate order.length (.ok ()) ∧
          (Write.run (order.map (Write.storing values)) buffer).buffer =
            values.flatMap Element.toBytes) ∧
      (∃ row, View.ofList? .rowMajor [values.length] values = some row ∧
        (row.pack : Outcome RangeError (List UInt8)) = .ok (values.flatMap Element.toBytes)) ∧
      (∀ (shape : Shape) (whole : View (Element t)),
        View.ofList? .rowMajor shape values = some whole →
        (whole.pack : Outcome RangeError (List UInt8)) = .ok (values.flatMap Element.toBytes)) ∧
      (values.length ≤ 2147483647 →
        ∃ packed, (Host.pack (some values) 0 (Int32.ofNat values.length)).outcome = .ok packed ∧
          Host.unsigned packed = values.flatMap Element.toBytes)) ∧
    ∀ (v : Element t) (dest : List UInt8) (start : Nat),
      store v dest start = packInto [v] 0 dest start 1 := by
  refine ⟨?_, store_eq_packInto⟩
  intro held
  obtain ⟨row, based⟩ := View.exists_ofList?_singleton held
  refine ⟨packAll_eq_ok held, pack_all held, ⟨_, mapM_packOne values, rfl⟩, ?_,
    ⟨row, based, View.pack_rowMajor held based⟩, ?_, Host.exists_pack_all held⟩
  · intro order buffer all room
    exact Write.run_storing held all room
  · intro shape whole based
    exact View.pack_rowMajor held based

/-- Two numbers of sixteen bits, the second of them stored first and stored again at the end; as an
array of one row they are packed alike, and so they are for the host. -/
theorem packing_paths_agree_int16 :
    (packAll (t := .int16) [⟨5⟩, ⟨0xFF80⟩] : Outcome RangeError (List UInt8)) =
        .ok [0, 5, 0xFF, 0x80] ∧
      (Write.run ([1, 0, 1].map (Write.storing (t := .int16) [⟨5⟩, ⟨0xFF80⟩])) [7, 7, 7, 7]).buffer =
        [0, 5, 0xFF, 0x80] ∧
      (∃ whole, View.ofList? .rowMajor [1, 2] ([⟨5⟩, ⟨0xFF80⟩] : List (Element .int16)) =
          some whole ∧
        (whole.pack : Outcome RangeError (List UInt8)) = .ok [0, 5, 0xFF, 0x80]) ∧
      ∃ packed, (Host.pack (t := .int16) (some [⟨5⟩, ⟨0xFF80⟩]) 0 2).outcome = .ok packed ∧
        Host.unsigned packed = [0, 5, 0xFF, 0x80] := by
  obtain ⟨whole, -, -, storing, -, shaped, host⟩ :=
    (packing_paths_agree (t := .int16) [⟨5⟩, ⟨0xFF80⟩]).1 (by decide)
  refine ⟨whole, ?_, ⟨_, rfl, shaped [1, 2] _ rfl⟩, host (by decide)⟩
  exact (storing [1, 0, 1] [7, 7, 7, 7] (by decide) rfl).2

end BytePacking
