import BytePacking.Proofs.Shape.Rank
import BytePacking.Proofs.View.Exchange
import BytePacking.View.Pack

/-!
# Reading a view in logical order

The base view of a memory leads every index of its shape to a place in that memory, and no
transformation leads an index to where none led before.  So a view that comes from a base by any
chain of transformations reads nothing but places of the memory (`readable_of_transformAll?`), and
all of its elements are read, each at the rank of its index (`Readable.elements_eq_entries`).  Their
bytes are what the view is packed to (`Readable.pack_eq_entries`).

For an array seen as a view of its own elements, these are the elements as they lie
(`elements_view`).
-/

set_option autoImplicit false

namespace BytePacking

namespace Layout

/-- Where the element at an index of an array lies in memory. -/
def place : Layout → Shape → List Nat → Nat
  | rowMajor, _ :: shape, position :: index =>
    position * Shape.size shape + place rowMajor shape index
  | columnMajor, length :: shape, position :: index =>
    position + length * place columnMajor shape index
  | _, _, _ => 0

/-- Where the last axis runs fastest, elements lie in logical order. -/
theorem place_rowMajor (shape : Shape) (index : List Nat) :
    rowMajor.place shape index = shape.rank index := by
  induction shape generalizing index with
  | nil => rfl
  | cons length shape ih =>
    cases index with
    | nil => rfl
    | cons position index => rw [place, ih, Shape.rank]

/-- In either layout an array needs no more memory than it has elements. -/
theorem place_lt_size (layout : Layout) {shape : Shape} {index : List Nat}
    (h : shape.Contains index) : layout.place shape index < shape.size := by
  cases layout with
  | rowMajor =>
    rw [place_rowMajor]
    exact Shape.rank_lt_size h
  | columnMajor =>
    induction shape generalizing index with
    | nil => exact Nat.one_pos
    | cons length shape ih =>
      obtain ⟨position, others, rfl, here, there⟩ := Shape.exists_of_contains_cons h
      calc columnMajor.place (length :: shape) (position :: others)
          = position + length * columnMajor.place shape others := rfl
        _ < length * (columnMajor.place shape others + 1) := by
          rw [Nat.mul_succ]
          omega
        _ ≤ Shape.size (length :: shape) := Nat.mul_le_mul_left _ (ih there)

/-- In either layout every element has a place of its own. -/
theorem eq_of_place_eq (layout : Layout) {shape : Shape} {i j : List Nat} (hi : shape.Contains i)
    (hj : shape.Contains j) (same : layout.place shape i = layout.place shape j) : i = j := by
  cases layout with
  | rowMajor =>
    rw [place_rowMajor, place_rowMajor] at same
    exact Shape.eq_of_rank_eq hi hj same
  | columnMajor =>
    induction shape generalizing i j with
    | nil => rw [Shape.eq_nil_of_contains_nil hi, Shape.eq_nil_of_contains_nil hj]
    | cons length shape ih =>
      obtain ⟨p, ps, rfl, here, there⟩ := Shape.exists_of_contains_cons hi
      obtain ⟨q, qs, rfl, here', there'⟩ := Shape.exists_of_contains_cons hj
      rw [place, place] at same
      -- The first position is the remainder by the length of its axis.
      have first : p = q := by
        have remainder := congrArg (· % length) same
        simpa [Nat.mod_eq_of_lt here, Nat.mod_eq_of_lt here'] using remainder
      subst first
      have others : columnMajor.place shape ps = columnMajor.place shape qs :=
        Nat.eq_of_mul_eq_mul_left (by omega) (Nat.add_left_cancel same)
      rw [ih there there' others]

end Layout

namespace View

variable {ε α : Type}

/-! ## Bases -/

/-- The axes with the given lengths and strides. -/
def axesOf (shape : Shape) (strides : List Nat) : List Axis :=
  List.zipWith (fun length (stride : Nat) => ⟨length, stride⟩) shape strides

/-- The first position takes its steps and leaves the rest to the others. -/
theorem reach_axesOf_cons (length stride position : Nat) (shape : Shape)
    (strides index : List Nat) :
    reach ((axesOf (length :: shape) (stride :: strides)).zip (position :: index)) =
      stride * position + reach ((axesOf shape strides).zip index) := rfl

/-- With strides that are some number of times as large, an index leads as many times as far. -/
theorem reach_axesOf_mul (scale : Nat) (shape : Shape) (strides index : List Nat) :
    reach ((axesOf shape (strides.map (scale * ·))).zip index) =
      scale * reach ((axesOf shape strides).zip index) := by
  induction shape generalizing strides index with
  | nil => simp [axesOf, reach]
  | cons length shape ih =>
    cases strides with
    | nil => simp [axesOf, reach]
    | cons stride strides =>
      cases index with
      | nil => simp [reach]
      | cons position index =>
        rw [List.map_cons, reach_axesOf_cons, reach_axesOf_cons, ih, Int.mul_add,
          Int.natCast_mul, Int.mul_assoc]

/-- The strides of a layout lead every index to its place. -/
theorem reach_strides (layout : Layout) {shape : Shape} {index : List Nat}
    (h : shape.Contains index) :
    reach ((axesOf shape (layout.strides shape)).zip index) = (layout.place shape index : Nat) := by
  induction shape generalizing index with
  | nil => cases layout <;> rfl
  | cons length shape ih =>
    obtain ⟨position, others, rfl, -, there⟩ := Shape.exists_of_contains_cons h
    cases layout with
    | rowMajor =>
      rw [Layout.strides, reach_axesOf_cons, ih there, Layout.place, Int.natCast_add,
        Int.natCast_mul, Int.mul_comm]
    | columnMajor =>
      rw [Layout.strides, reach_axesOf_cons, reach_axesOf_mul, ih there, Layout.place,
        Int.natCast_add, Int.natCast_mul, Int.natCast_one, Int.one_mul]

/-- In the view of a whole memory an index leads to its place. -/
theorem address_base (layout : Layout) {shape : Shape} (memory : List α) {index : List Nat}
    (h : shape.Contains index) :
    (base layout shape memory).address index = (layout.place shape index : Nat) := by
  rw [address_eq, ← reach_strides layout h]
  exact Int.zero_add _

/-- In the view of a whole memory the elements are found at their places. -/
theorem read_base (layout : Layout) (shape : Shape) (memory : List α) (place : Nat) :
    ((base layout shape memory).read place : Outcome ε α) =
      Outcome.ofOptionOrTrap memory[place]? := by
  rw [read, if_neg (by omega), Int.toNat_natCast, base, List.getElem?_toArray]

/-! ## Views that read their memory only -/

/-- Every index of the view leads to a place in its memory, and the number of elements is one that
an array can have.  Several indices may lead to the same place. -/
structure Valid (v : View α) : Prop where
  /-- No index leads out of the memory. -/
  address : ∀ index, v.shape.Contains index →
    ∃ place : Nat, v.address index = place ∧ place < v.memory.size
  /-- An array of the shape can be held in memory. -/
  allocatable : v.shape.Allocatable

/-- A valid view that has no more elements than its memory. -/
structure Readable (v : View α) : Prop extends v.Valid where
  /-- There are no more elements than the memory has. -/
  size : v.shape.size ≤ v.memory.size

/-- The view of a whole memory reads this memory. -/
theorem readable_base (layout : Layout) {shape : Shape} {memory : List α}
    (count : memory.length = shape.size) (allocatable : shape.Allocatable) :
    (base layout shape memory).Readable where
  address := by
    intro index inside
    rw [shape_base] at inside
    have bound := layout.place_lt_size inside
    exact ⟨layout.place shape index, address_base layout memory inside, by simpa [base, count]⟩
  allocatable := by rwa [shape_base]
  size := by
    rw [shape_base, ← count]
    exact Nat.le_refl _

/-- A transformation of a valid view is a valid view. -/
theorem Valid.transform? {v w : View α} {transform : Transform} (valid : v.Valid)
    (h : v.transform? transform = some w) : w.Valid where
  address := by
    intro index inside
    obtain ⟨insideOld, address⟩ := source_of_transform? h inside
    rw [memory_transform? h, ← address]
    exact valid.address _ insideOld
  allocatable := Nat.le_trans (shrinks_of_transform? h).2 valid.allocatable

/-- A transformation of a readable view is a readable view. -/
theorem Readable.transform? {v w : View α} {transform : Transform} (readable : v.Readable)
    (h : v.transform? transform = some w) : w.Readable where
  toValid := readable.toValid.transform? h
  size := by
    rw [memory_transform? h]
    exact Nat.le_trans (shrinks_of_transform? h).1 readable.size

/-- A chain of transformations of a readable view ends with a readable view, of the same memory. -/
theorem Readable.transformAll? {v w : View α} {transforms : List Transform} (readable : v.Readable)
    (h : v.transformAll? transforms = some w) : w.Readable ∧ w.memory = v.memory := by
  induction transforms generalizing v with
  | nil =>
    obtain rfl := Option.some.inj h
    exact ⟨readable, rfl⟩
  | cons transform transforms ih =>
    rw [transformAll?_cons] at h
    obtain ⟨next, first, rest⟩ := Option.bind_eq_some_iff.1 h
    obtain ⟨readable', memory⟩ := ih (readable.transform? first) rest
    exact ⟨readable', memory.trans (memory_transform? first)⟩

/-- Whatever is done to the base view of a memory, the result reads its memory only, which is as
large. -/
theorem readable_of_transformAll? {layout : Layout} {shape : Shape} {memory : List α}
    {whole v : View α} {transforms : List Transform}
    (based : ofList? layout shape memory = some whole)
    (transformed : whole.transformAll? transforms = some v) :
    v.Readable ∧ v.memory.size = memory.length := by
  obtain ⟨⟨count, allocatable⟩, same⟩ := Option.ite_none_right_eq_some.1 based
  obtain rfl := Option.some.inj same
  obtain ⟨readable, same⟩ := (readable_base layout count allocatable).transformAll? transformed
  refine ⟨readable, ?_⟩
  rw [same]
  rfl

/-! ## Elements -/

section Elements

variable [Inhabited α] {v : View α}

/-- The element at an index of the view, where the view reads its memory there. -/
def entry (v : View α) (index : List Nat) : α :=
  v.memory.getD (v.address index).toNat default

/-- The elements at all indices of the view, in logical order. -/
def entries (v : View α) : List α := v.shape.enumerate.map v.entry

/-- There is an entry for every element of the shape. -/
@[simp] theorem length_entries (v : View α) : v.entries.length = v.shape.size := by
  rw [entries, List.length_map, Shape.length_enumerate]

/-- Each element stands at the rank of its index. -/
theorem getElem?_entries_rank {index : List Nat} (inside : v.shape.Contains index) :
    v.entries[v.shape.rank index]? = some (v.entry index) := by
  rw [entries, List.getElem?_map, ← Shape.indices_eq_enumerate,
    Shape.getElem?_indices_rank inside, Option.map_some]

/-- A transformed view has the elements of the view before it. -/
theorem entry_of_transform? {w : View α} {transform : Transform}
    (h : v.transform? transform = some w) {index : List Nat} (inside : w.shape.Contains index) :
    w.entry index = v.entry (transform.source v.shape index) := by
  rw [entry, entry, memory_transform? h, (source_of_transform? h inside).2]

/-- At every index of a valid view its entry is read. -/
theorem Valid.read_eq_entry (valid : v.Valid) {index : List Nat}
    (inside : v.shape.Contains index) :
    (v.read (v.address index) : Outcome ε α) = .ok (v.entry index) := by
  obtain ⟨place, address, bound⟩ := valid.address index inside
  rw [read, entry, address, if_neg (by omega), Int.toNat_natCast, Array.getElem?_eq_getElem bound,
    Array.getD_eq_getD_getElem?, Array.getElem?_eq_getElem bound]
  rfl

/-- All elements of a valid view are read. -/
theorem Valid.elements_eq_entries (valid : v.Valid) :
    (v.elements : Outcome ε (List α)) = .ok v.entries := by
  rw [elements, Shape.indices_eq_enumerate, entries]
  apply Outcome.mapM_eq_ok
  rw [List.map_map]
  apply List.map_congr_left
  intro index h
  exact valid.read_eq_entry (Shape.mem_enumerate.1 h)

/-- An array that is seen as a view has its own elements. -/
theorem elements_view (a : Tensor α) : (a.view.elements : Outcome ε (List α)) = .ok a.values := by
  have readable : a.view.Readable := readable_base .rowMajor a.length_values a.allocatable
  have count : a.view.entries.length = a.values.length := by
    rw [length_entries, Tensor.shape_view, a.length_values]
  rw [readable.elements_eq_entries]
  congr 1
  -- Every place is the rank of an index, and the address of this index is that place again.
  apply List.ext_getElem count
  intro i bound bound'
  obtain ⟨index, inside, rfl⟩ := Shape.exists_rank_eq (a.length_values ▸ bound')
  have inside' : a.view.shape.Contains index := by rwa [Tensor.shape_view]
  have value := getElem?_entries_rank inside'
  rw [Tensor.shape_view, List.getElem?_eq_getElem bound] at value
  have here := readable.read_eq_entry (ε := ε) inside'
  rw [Tensor.view, address_base _ _ inside, Layout.place_rowMajor, read_base,
    List.getElem?_eq_getElem bound'] at here
  exact (Option.some.inj value).trans (Outcome.ok.inj here).symm

end Elements

section Bytes

variable {t : ElementType} {v : View (Element t)}

/-- Where there is room for its bytes, a valid view is packed to those of its elements. -/
theorem Valid.pack_eq_entries (valid : v.Valid)
    (room : v.shape.size * t.width ≤ AddressSpace.allocationLimit) :
    (v.pack : Outcome ε (List UInt8)) = .ok (v.entries.flatMap Element.toBytes) :=
  pack_eq_ok room valid.elements_eq_entries v.length_entries

/-- A readable view is packed to the bytes of its elements, if its memory can be held. -/
theorem Readable.pack_eq_entries (readable : v.Readable)
    (held : v.memory.size * t.width ≤ AddressSpace.allocationLimit) :
    (v.pack : Outcome ε (List UInt8)) = .ok (v.entries.flatMap Element.toBytes) := by
  have room : v.shape.size * t.width ≤ AddressSpace.allocationLimit :=
    Nat.le_trans (Nat.mul_le_mul_right _ readable.size) held
  exact readable.toValid.pack_eq_entries room

/-- A readable view is packed element by element, each at the rank of its index. -/
theorem Readable.exists_pack_eq_ok (readable : v.Readable)
    (held : v.memory.size * t.width ≤ AddressSpace.allocationLimit) :
    ∃ values : List (Element t),
      (v.pack : Outcome ε (List UInt8)) = .ok (values.flatMap Element.toBytes) ∧
      values.length = v.shape.size ∧ ∀ index, v.shape.Contains index →
        ∃ x, (v.read (v.address index) : Outcome ε (Element t)) = .ok x ∧
          values[v.shape.rank index]? = some x := by
  refine ⟨v.entries, readable.pack_eq_entries held, v.length_entries, ?_⟩
  intro index inside
  exact ⟨v.entry index, readable.read_eq_entry inside, getElem?_entries_rank inside⟩

end Bytes

end View

end BytePacking
