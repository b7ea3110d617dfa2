import BytePacking.Proofs.View.Reading
import BytePacking.Proofs.View.Source
import BytePacking.Tensor.Unpack

/-!
# What is relied on of arrays with axes

Arrays with axes come from a library of their own, and packing and unpacking rely on little of it:
that an array has a shape which can be held in memory, that its elements are iterated over in
logical order, that a list is taken for an array of some shape where it can be and lies there in the
given layout, and that a transformation leads every index back to the one that it comes from.  These
assumptions are the laws of `ArrayLibrary`.

Views with strides keep all of them (`ArrayLibrary.strided`).  Moreover they are as good as any
other library that does: no two libraries can be told apart by what a chain of transformations
leaves of an array (`Same.rel_transformAll?`).  So packing gives what it gives for views
(`pack_of_transforms`), and unpacking gives an array with the shape and the elements of a `Tensor`,
or the same error (`map_tensor_unpack`).  What is proved of views and tensors thus holds of every
such library.
-/

set_option autoImplicit false

namespace BytePacking

/-- A library of arrays with axes, with all that is relied on of it. -/
structure ArrayLibrary (α : Type) where
  /-- The arrays, among them those that present the elements of others. -/
  Carrier : Type
  /-- The lengths of the axes. -/
  shape : Carrier → Shape
  /-- The element at an index of the shape. -/
  get? : Carrier → List Nat → Option α
  /-- The elements in the order in which they are iterated over. -/
  iterate : Carrier → List α
  /-- The array with axes of the given lengths whose elements are those of a list, in a layout. -/
  ofList? : Layout → Shape → List α → Option Carrier
  /-- The array after a transformation. -/
  transform? : Carrier → Transform → Option Carrier
  /-- An array of the same shape can be held in memory. -/
  allocatable : ∀ a, (shape a).Allocatable
  /-- Iteration goes through the indices in logical order, the last axis running fastest. -/
  iterate_eq : ∀ a, (iterate a).map some = (shape a).indices.map (get? a)
  /-- A list is accepted if it has as many elements as the shape asks for and the shape can be held
  in memory. -/
  ofList?_isSome : ∀ layout lengths values, (ofList? layout lengths values).isSome ↔
    values.length = lengths.size ∧ lengths.Allocatable
  /-- The array of a list has the shape that it was asked for. -/
  shape_ofList? : ∀ {layout lengths values a}, ofList? layout lengths values = some a →
    shape a = lengths
  /-- The elements of a list lie in the array as the layout says. -/
  get?_ofList? : ∀ {layout lengths values a}, ofList? layout lengths values = some a →
    ∀ index, lengths.Contains index → get? a index = values[layout.place lengths index]?
  /-- Which shape a transformation leaves, if it applies, is a matter of the shape. -/
  shape_transform? : ∀ a transform,
    (transform? a transform).map shape = transform.target? (shape a)
  /-- A transformation leads every index back to the one that it comes from. -/
  get?_transform? : ∀ {a transform b}, transform? a transform = some b →
    ∀ index, (shape b).Contains index → get? b index = get? a (transform.source (shape a) index)

/-- An index of a transformed array comes from an index of the array. -/
theorem Transform.contains_source {transform : Transform} {lengths next : Shape}
    (h : transform.target? lengths = some next) {index : List Nat}
    (inside : next.Contains index) : lengths.Contains (transform.source lengths index) := by
  -- Strides are of no account, so that any view of this shape tells.
  let v : View Unit := .base .rowMajor lengths []
  have axes : v.shape = lengths := View.shape_base ..
  have shapes := v.shape_transform? transform
  rw [axes, h] at shapes
  obtain ⟨w, applied, rfl⟩ := Option.map_eq_some_iff.1 shapes
  rw [← axes]
  exact (View.source_of_transform? applied inside).1

namespace ArrayLibrary

variable {α : Type}

/-- The array after a chain of transformations. -/
def transformAll? (L : ArrayLibrary α) (a : L.Carrier) (transforms : List Transform) :
    Option L.Carrier :=
  transforms.foldlM L.transform? a

/-- An array of a library by its shape and its elements in logical order. -/
def tensor (L : ArrayLibrary α) (a : L.Carrier) : Tensor α where
  shape := L.shape a
  values := L.iterate a
  length_values := by
    have same := congrArg List.length (L.iterate_eq a)
    rwa [List.length_map, List.length_map, Shape.length_indices] at same
  allocatable := L.allocatable a

/-! ## Arrays that look the same -/

/-- Two arrays, each of a library of its own, that cannot be told apart by looking at them. -/
structure Same (L M : ArrayLibrary α) (a : L.Carrier) (b : M.Carrier) : Prop where
  /-- The axes have the same lengths. -/
  shape : L.shape a = M.shape b
  /-- At every index there is the same element. -/
  get? : ∀ index, (L.shape a).Contains index → L.get? a index = M.get? b index

section Same

variable {L M : ArrayLibrary α} {a : L.Carrier} {b : M.Carrier}

/-- Arrays that look the same have the same elements in the same order. -/
theorem Same.iterate (same : Same L M a b) : L.iterate a = M.iterate b := by
  apply List.map_injective_iff.2 (Option.some_injective α)
  rw [L.iterate_eq, M.iterate_eq, ← same.shape, Shape.indices_eq_enumerate]
  apply List.map_congr_left
  intro index h
  exact same.get? index (Shape.mem_enumerate.1 h)

/-- The arrays of a list look the same, and where one library refuses the list so does the
other. -/
theorem rel_ofList? (L M : ArrayLibrary α) (layout : Layout) (lengths : Shape)
    (values : List α) :
    Option.Rel (Same L M) (L.ofList? layout lengths values) (M.ofList? layout lengths values) := by
  have accepted : (L.ofList? layout lengths values).isSome ↔
      (M.ofList? layout lengths values).isSome :=
    (L.ofList?_isSome ..).trans (M.ofList?_isSome ..).symm
  cases ha : L.ofList? layout lengths values with
  | none =>
    cases hb : M.ofList? layout lengths values with
    | none => exact .none
    | some b => simp [ha, hb] at accepted
  | some a =>
    cases hb : M.ofList? layout lengths values with
    | none => simp [ha, hb] at accepted
    | some b =>
      refine .some ⟨(L.shape_ofList? ha).trans (M.shape_ofList? hb).symm, ?_⟩
      intro index inside
      rw [L.shape_ofList? ha] at inside
      rw [L.get?_ofList? ha index inside, M.get?_ofList? hb index inside]

/-- A transformation leaves arrays that look the same, if it applies to one of them. -/
theorem Same.rel_transform? (same : Same L M a b) (transform : Transform) :
    Option.Rel (Same L M) (L.transform? a transform) (M.transform? b transform) := by
  have left := L.shape_transform? a transform
  have right := M.shape_transform? b transform
  rw [same.shape] at left
  cases ha : L.transform? a transform with
  | none =>
    cases hb : M.transform? b transform with
    | none => exact .none
    | some d =>
      rw [ha, ← right, hb] at left
      cases left
  | some c =>
    cases hb : M.transform? b transform with
    | none =>
      rw [hb, ← left, ha] at right
      cases right
    | some d =>
      rw [ha, Option.map_some] at left
      rw [hb, Option.map_some] at right
      refine .some ⟨Option.some.inj (left.trans right.symm), ?_⟩
      intro index inside
      have inside' : (M.shape d).Contains index := by
        rwa [← Option.some.inj (left.trans right.symm)]
      have before := Transform.contains_source right.symm inside'
      rw [L.get?_transform? ha index inside, M.get?_transform? hb index inside', same.shape]
      exact same.get? _ (by rwa [same.shape])

/-- So does a chain of transformations. -/
theorem Same.rel_transformAll? (same : Same L M a b) (transforms : List Transform) :
    Option.Rel (Same L M) (L.transformAll? a transforms) (M.transformAll? b transforms) := by
  induction transforms generalizing a b with
  | nil => exact .some same
  | cons transform transforms ih =>
    rw [transformAll?, transformAll?, List.foldlM_cons, List.foldlM_cons]
    have first := same.rel_transform? transform
    generalize L.transform? a transform = c, M.transform? b transform = d at first ⊢
    cases first with
    | none => exact .none
    | some next => exact ih next

end Same

/-! ## Views with strides -/

/-- The valid views as a library of arrays. -/
def strided (α : Type) [Inhabited α] : ArrayLibrary α where
  Carrier := {v : View α // v.Valid}
  shape v := v.1.shape
  get? v index := if v.1.shape.Contains index then some (v.1.entry index) else none
  iterate v := v.1.entries
  ofList? layout lengths values :=
    if h : values.length = lengths.size ∧ lengths.Allocatable then
      some ⟨.base layout lengths values, (View.readable_base layout h.1 h.2).toValid⟩
    else none
  transform? v transform :=
    (v.1.transform? transform).attach.map fun w => ⟨w.1, v.2.transform? w.2⟩
  allocatable v := v.2.allocatable
  iterate_eq := by
    intro v
    rw [View.entries, List.map_map, Shape.indices_eq_enumerate]
    apply List.map_congr_left
    intro index h
    exact (if_pos (Shape.mem_enumerate.1 h)).symm
  ofList?_isSome := by
    intro layout lengths values
    split
    · next accepted => exact iff_of_true rfl accepted
    · next refused => exact iff_of_false nofun refused
  shape_ofList? := by
    intro layout lengths values v h
    obtain ⟨_, same⟩ := Option.dite_none_right_eq_some.1 h
    obtain rfl := Option.some.inj same
    exact View.shape_base ..
  get?_ofList? := by
    intro layout lengths values v h index inside
    obtain ⟨⟨count, allocatable⟩, same⟩ := Option.dite_none_right_eq_some.1 h
    obtain rfl := Option.some.inj same
    have place : layout.place lengths index < values.length :=
      count ▸ layout.place_lt_size inside
    rw [if_pos (by rwa [View.shape_base]), View.entry, View.address_base layout values inside,
      Int.toNat_natCast, List.getElem?_eq_getElem place]
    simp [View.base, place]
  shape_transform? := by
    intro v transform
    rw [← v.1.shape_transform? transform, Option.map_map]
    exact Option.attach_map_val _ View.shape
  get?_transform? := by
    intro v transform w h index inside
    obtain ⟨u, -, rfl⟩ := Option.map_eq_some_iff.1 h
    have before := (View.source_of_transform? u.2 inside).1
    calc (if u.1.shape.Contains index then some (u.1.entry index) else none)
        = some (u.1.entry index) := if_pos inside
      _ = some (v.1.entry (transform.source v.1.shape index)) :=
        congrArg some (View.entry_of_transform? u.2 inside)
      _ = _ := (if_pos before).symm

/-- A valid view as a view. -/
def view [Inhabited α] (v : (strided α).Carrier) : View α := v.1

/-- A transformation leaves the same view, whether it is known to be valid or not. -/
theorem transform?_strided [Inhabited α] (v : (strided α).Carrier) (transform : Transform) :
    ((strided α).transform? v transform).map view = (view v).transform? transform :=
  (Option.map_map ..).trans (Option.attach_map_subtype_val _)

/-- So does a chain of transformations. -/
theorem transformAll?_strided [Inhabited α] (v : (strided α).Carrier)
    (transforms : List Transform) :
    ((strided α).transformAll? v transforms).map view = (view v).transformAll? transforms := by
  induction transforms generalizing v with
  | nil => rfl
  | cons transform transforms ih =>
    have first := transform?_strided v transform
    rw [View.transformAll?_cons, ← first, transformAll?, List.foldlM_cons]
    cases (strided α).transform? v transform with
    | none => rfl
    | some w => exact ih w

/-- A list is presented by the same view, whether it is known to be valid or not. -/
theorem ofList?_strided [Inhabited α] (layout : Layout) (lengths : Shape) (values : List α) :
    ((strided α).ofList? layout lengths values).map view =
      View.ofList? layout lengths values := by
  simp only [strided, View.ofList?]
  split <;> rfl

/-- Where a list lies in logical order it is what is iterated over. -/
theorem iterate_of_ofList? [Inhabited α] {L : ArrayLibrary α} {lengths : Shape}
    {values : List α} {a : L.Carrier} (h : L.ofList? .rowMajor lengths values = some a) :
    L.iterate a = values := by
  have alike := rel_ofList? L (strided α) .rowMajor lengths values
  have taken := ofList?_strided .rowMajor lengths values
  rw [h] at alike
  generalize (strided α).ofList? .rowMajor lengths values = found at alike taken
  cases alike with
  | @some _ v same =>
    obtain ⟨⟨count, allocatable⟩, base⟩ := Option.ite_none_right_eq_some.1 taken.symm
    have read : ((view v).elements : Outcome Empty (List α)) = .ok values := by
      rw [← Option.some.inj base]
      exact View.elements_view ⟨lengths, values, count, allocatable⟩
    rw [same.iterate]
    exact Outcome.ok.inj (v.2.elements_eq_entries.symm.trans read)

/-! ## Packing and unpacking -/

section Conversions

variable {ε : Type} {t : ElementType} (L : ArrayLibrary (Element t))

/-- The bytes of all elements of an array, in the order in which they are iterated over. -/
def pack (a : L.Carrier) : Outcome ε (List UInt8) := do
  let fresh ← AddressSpace.allocate 1 ((L.shape a).size * t.width) (0 : UInt8)
  (Blocks.overwrite t.width Element.overwrite (L.iterate a) fresh).result

/-- The array with axes of the given lengths whose elements are read from byte `byteStart` on. -/
def unpack (bytes : List UInt8) (byteStart : Nat) (lengths : Shape) :
    Outcome RangeError L.Carrier := do
  let count ← Outcome.ofOption ⟨.elements, .overflow⟩ lengths.count?
  let values ← BytePacking.unpack t bytes byteStart 0 count
  Outcome.ofOption ⟨.elements, .overflow⟩ (L.ofList? .rowMajor lengths values)

variable {L}

/-- Arrays that look the same are packed to the same bytes. -/
theorem Same.pack {M : ArrayLibrary (Element t)} {a : L.Carrier} {b : M.Carrier}
    (same : Same L M a b) : (L.pack a : Outcome ε (List UInt8)) = M.pack b := by
  rw [ArrayLibrary.pack, ArrayLibrary.pack, same.shape, same.iterate]

/-- A view is packed as an array of the library of views. -/
theorem pack_strided (v : (strided (Element t)).Carrier) :
    ((strided (Element t)).pack v : Outcome ε (List UInt8)) = (view v).pack := by
  rw [ArrayLibrary.pack, View.pack, view, v.2.elements_eq_entries]
  rfl

/-- In every library an array is packed to the bytes of its elements if there is room for them. -/
theorem pack_eq_ok {a : L.Carrier}
    (room : (L.shape a).size * t.width ≤ AddressSpace.allocationLimit) :
    (L.pack a : Outcome ε (List UInt8)) = .ok ((L.iterate a).flatMap Element.toBytes) := by
  have count : (L.iterate a).length = (L.shape a).size := (L.tensor a).length_values
  rw [ArrayLibrary.pack, AddressSpace.allocate_eq_ok _ (by omega), Outcome.ok_bind,
    overwrite_blocks_eq_done (by simp [count])]
  simp [count]

/-- What a chain of transformations leaves of the array of a list is packed to the same bytes in
every library, those that views with strides are packed to. -/
theorem pack_of_transforms (L : ArrayLibrary (Element t)) (layout : Layout) (lengths : Shape)
    (values : List (Element t)) (transforms : List Transform) :
    ((L.ofList? layout lengths values).bind (L.transformAll? · transforms)).map L.pack =
      ((View.ofList? layout lengths values).bind (·.transformAll? transforms)).map
        (View.pack : View (Element t) → Outcome ε (List UInt8)) := by
  have base := rel_ofList? L (strided (Element t)) layout lengths values
  rw [← ofList?_strided]
  generalize L.ofList? layout lengths values = a,
    (strided (Element t)).ofList? layout lengths values = v at base ⊢
  cases base with
  | none => rfl
  | @some a v same =>
    have chain := same.rel_transformAll? transforms
    rw [Option.map_some, Option.bind_some, Option.bind_some, ← transformAll?_strided]
    generalize L.transformAll? a transforms = c,
      (strided (Element t)).transformAll? v transforms = w at chain ⊢
    cases chain with
    | none => rfl
    | some same' => exact congrArg some (same'.pack.trans (pack_strided _))

/-- A list is taken for an array of a library exactly if it is taken for a tensor, and that has the
same shape and the same elements. -/
theorem map_tensor_ofList? (L : ArrayLibrary (Element t)) (lengths : Shape)
    (values : List (Element t)) :
    (L.ofList? .rowMajor lengths values).map L.tensor = Tensor.ofList? lengths values := by
  have accepted := L.ofList?_isSome .rowMajor lengths values
  cases h : L.ofList? .rowMajor lengths values with
  | none =>
    have refused : ¬(values.length = lengths.size ∧ lengths.Allocatable) := by
      rw [← accepted, h]
      nofun
    rw [Tensor.ofList?, dif_neg refused, Option.map_none]
  | some a =>
    symm
    exact Tensor.ofList?_eq_some_iff.2 ⟨L.shape_ofList? h, iterate_of_ofList? h⟩

/-- Bytes are unpacked to the array of a library exactly if they are unpacked to a tensor, and that
has the same shape and the same elements; else there is the same error. -/
theorem map_tensor_unpack (L : ArrayLibrary (Element t)) (bytes : List UInt8) (byteStart : Nat)
    (lengths : Shape) :
    L.tensor <$> L.unpack bytes byteStart lengths = Tensor.unpack t bytes byteStart lengths := by
  have taken (values : List (Element t)) :
      L.tensor <$> (Outcome.ofOption ⟨.elements, .overflow⟩ (L.ofList? .rowMajor lengths values) :
        Outcome RangeError L.Carrier) =
      Outcome.ofOption ⟨.elements, .overflow⟩ (Tensor.ofList? lengths values) := by
    rw [← map_tensor_ofList? L]
    cases L.ofList? .rowMajor lengths values <;> rfl
  simp only [ArrayLibrary.unpack, Tensor.unpack, map_bind, taken]

end Conversions

end ArrayLibrary

end BytePacking
