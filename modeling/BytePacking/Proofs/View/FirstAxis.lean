import BytePacking.Proofs.View.Reading
import BytePacking.Proofs.View.Source

/-!
# Views are packed block by block

The first axis of a view runs slowest, so that the bytes of a view are those of its blocks, one for
each position on the first axis, one behind the other (`packed_by_first_axis`).  A block is a view
of its own, the one that is left when the position is selected.  Some first positions and the others
are packed to the first blocks and the others, and with its first axis inverted a view is packed to
the same blocks from the last to the first; while the order within a block never changes.  An axis
of length one has no influence wherever it stands.

None of this depends on strides.  What a transformed view is packed to is said by the elements of
the view before it, in the order that `Transform.source` gives them
(`Readable.exists_transform_pack_eq_ok`); the rest is about lists of indices.
-/

set_option autoImplicit false

namespace BytePacking

/-- With a new axis of length one there are the same indices in the same order, each with the only
position that there is on this axis. -/
theorem Shape.enumerate_insertIdx {shape : Shape} {axis : Nat} (place : axis ≤ shape.length) :
    enumerate (shape.insertIdx axis 1) = (enumerate shape).map (·.insertIdx axis 0) := by
  induction axis generalizing shape with
  | zero => simp [enumerate]
  | succ axis ih =>
    cases shape with
    | nil => cases place
    | cons length shape =>
      -- The first axis is enumerated as before, and the new axis is one of those behind it.
      have others := ih (Nat.le_of_succ_le_succ place)
      simp [enumerate, others, List.map_flatMap, Function.comp_def]

/-- Indices are enumerated position by position of the first axis. -/
theorem Shape.flatMap_enumerate_cons {β : Type} (length : Nat) (shape : Shape)
    (f : List Nat → List β) :
    (enumerate (length :: shape)).flatMap f =
      ((List.range length).map fun position =>
        (enumerate shape).flatMap fun index => f (position :: index)).flatten := by
  rw [enumerate, List.flatMap_assoc, List.flatMap_def]
  simp only [List.flatMap_map]

namespace View

/-! ## Elements by their indices -/

variable {ε : Type} {t : ElementType} {v : View (Element t)} {length : Nat} {others : Shape}

/-- The bytes of the blocks of a view, for each position on the first axis those of the elements
with this position, where `others` are the lengths of the other axes. -/
def blocks (v : View (Element t)) (length : Nat) (others : Shape) : List (List UInt8) :=
  (List.range length).map fun position =>
    others.enumerate.flatMap fun index => (v.entry (position :: index)).toBytes

/-- There is a block for every position on the first axis. -/
@[simp] theorem length_blocks (v : View (Element t)) (length : Nat) (others : Shape) :
    (v.blocks length others).length = length := by
  simp [blocks]

section Readable

variable (readable : v.Readable)
  (held : v.memory.size * t.width ≤ AddressSpace.allocationLimit)

include readable held

/-- A transformation that applies to the shape of a view leaves a view that is packed to the bytes
of the same elements, in the order of the indices that they come from. -/
theorem Readable.exists_transform_pack_eq_ok {transform : Transform} {next : Shape}
    (target : transform.target? v.shape = some next) :
    ∃ w, v.transform? transform = some w ∧
      (w.pack : Outcome ε (List UInt8)) = .ok (next.enumerate.flatMap fun index =>
        (v.entry (transform.source v.shape index)).toBytes) := by
  rw [← v.shape_transform? transform] at target
  obtain ⟨w, applied, rfl⟩ := Option.map_eq_some_iff.1 target
  refine ⟨w, applied, ?_⟩
  rw [(readable.transform? applied).pack_eq_entries (by rwa [memory_transform? applied]), entries,
    List.flatMap_map]
  congr 1
  apply List.flatMap_congr
  intro index h
  rw [entry_of_transform? applied (Shape.mem_enumerate.1 h)]

/-! ## Blocks -/

/-- A view is packed to its blocks, one behind the other. -/
theorem Readable.pack_eq_blocks (axes : v.shape = length :: others) :
    (v.pack : Outcome ε (List UInt8)) = .ok (v.blocks length others).flatten := by
  rw [readable.pack_eq_entries held, entries, List.flatMap_map, axes, Shape.flatMap_enumerate_cons,
    blocks]

/-- With a position selected a view is packed to one of its blocks. -/
theorem Readable.exists_select_pack_eq_ok (axes : v.shape = length :: others) {position : Nat}
    (inside : position < length) :
    ∃ w block, v.transform? (.select 0 position) = some w ∧
      (w.pack : Outcome ε (List UInt8)) = .ok block ∧
      (v.blocks length others)[position]? = some block := by
  have target : Transform.target? (.select 0 position) v.shape = some others := by
    simp [Transform.target?, axes, inside]
  obtain ⟨w, applied, packed⟩ := readable.exists_transform_pack_eq_ok held target
  refine ⟨w, _, applied, packed, ?_⟩
  simp [blocks, inside, Transform.source]

/-- Where only the positions on the first axis change, blocks are packed as a whole. -/
theorem Readable.exists_moved_pack_eq_ok {transform : Transform} {count : Nat}
    {origin : Nat → Nat} (target : transform.target? v.shape = some (count :: others))
    (moves : ∀ position index,
      transform.source v.shape (position :: index) = origin position :: index) :
    ∃ w, v.transform? transform = some w ∧
      (w.pack : Outcome ε (List UInt8)) = .ok ((List.range count).map fun position =>
        others.enumerate.flatMap fun index =>
          (v.entry (origin position :: index)).toBytes).flatten := by
  obtain ⟨w, applied, packed⟩ := readable.exists_transform_pack_eq_ok (ε := ε) held target
  refine ⟨w, applied, ?_⟩
  simp only [packed, Shape.flatMap_enumerate_cons, moves]

/-- The positions from `start` to `stop` are packed to the blocks from `start` to `stop`. -/
theorem Readable.exists_slice_pack_eq_ok (axes : v.shape = length :: others) {start stop : Nat}
    (ordered : start ≤ stop) (inside : stop ≤ length) :
    ∃ w, v.transform? (.slice 0 start stop 1) = some w ∧
      (w.pack : Outcome ε (List UInt8)) =
        .ok (((v.blocks length others).drop start).take (stop - start)).flatten := by
  have target : Transform.target? (.slice 0 start stop 1) v.shape =
      some ((stop - start) :: others) := by
    simp [Transform.target?, axes, ordered, inside, Transform.sliceLength]
  have moves (position : Nat) (index : List Nat) :
      Transform.source (.slice 0 start stop 1) v.shape (position :: index) =
        (start + position) :: index := by
    have place : ((start : Int) + position).toNat = start + position := by omega
    simp [Transform.source, Transform.sliceOrigin, place]
  obtain ⟨w, applied, packed⟩ := readable.exists_moved_pack_eq_ok (ε := ε) held target moves
  refine ⟨w, applied, packed.trans ?_⟩
  congr 2
  apply List.ext_getElem
  · simp only [List.length_map, List.length_range, List.length_take, List.length_drop,
      length_blocks]
    omega
  · intro i _ _
    simp [blocks]

/-- With its first axis inverted a view is packed to its blocks from the last to the first. -/
theorem Readable.exists_invert_pack_eq_ok (axes : v.shape = length :: others) :
    ∃ w, v.transform? (.invert 0) = some w ∧
      (w.pack : Outcome ε (List UInt8)) = .ok (v.blocks length others).reverse.flatten := by
  have target : Transform.target? (.invert 0) v.shape = some (length :: others) := by
    simp [Transform.target?, axes]
  have moves (position : Nat) (index : List Nat) :
      Transform.source (.invert 0) v.shape (position :: index) =
        (length - 1 - position) :: index := by
    simp [Transform.source, axes]
  obtain ⟨w, applied, packed⟩ := readable.exists_moved_pack_eq_ok (ε := ε) held target moves
  refine ⟨w, applied, packed.trans ?_⟩
  congr 2
  apply List.ext_getElem
  · simp
  · intro i _ _
    simp [blocks]

/-- An axis of length one changes no byte. -/
theorem Readable.exists_insert_pack_eq {axis : Nat} (place : axis ≤ v.shape.length) :
    ∃ w, v.transform? (.insert axis) = some w ∧ (w.pack : Outcome ε (List UInt8)) = v.pack := by
  have target : Transform.target? (.insert axis) v.shape = some (v.shape.insertIdx axis 1) :=
    if_pos place
  obtain ⟨w, applied, packed⟩ := readable.exists_transform_pack_eq_ok (ε := ε) held target
  refine ⟨w, applied, packed.trans ?_⟩
  rw [readable.pack_eq_entries held, entries, List.flatMap_map, Shape.enumerate_insertIdx place,
    List.flatMap_map]
  simp [Transform.source]

end Readable

/-! ## Views of a memory -/

/-- The bytes of a view with some axis are those of its blocks along the first axis, in order.  The
view may come from the view of a whole memory by any chain of transformations, and axes may be
empty; as for every array, it is understood that the memory can be held.

To each of its blocks the view is packed with the position of the block selected.  The positions
before any place and those from there on are packed to the blocks before and the blocks from there
on, so that the bytes of the view are the ones and then the others; and with the axis inverted the
view is packed to the same blocks in reverse order.  With a new axis of length one before any place
a view is packed to the bytes that it was packed to without, whether it has other axes or not. -/
theorem packed_by_first_axis {t : ElementType} {layout : Layout} {shape : Shape}
    {memory : List (Element t)} {whole v : View (Element t)} {transforms : List Transform}
    (held : memory.length * t.width ≤ AddressSpace.allocationLimit)
    (based : ofList? layout shape memory = some whole)
    (transformed : whole.transformAll? transforms = some v) :
    (∀ (length : Nat) (others : Shape), v.shape = length :: others →
      ∃ blocks : List (List UInt8), blocks.length = length ∧
        (v.pack : Outcome RangeError (List UInt8)) = .ok blocks.flatten ∧
        (∀ position < length, ∃ w block, v.transform? (.select 0 position) = some w ∧
          (w.pack : Outcome RangeError (List UInt8)) = .ok block ∧
          blocks[position]? = some block) ∧
        (∀ place ≤ length, ∃ front back,
          v.transform? (.slice 0 0 place 1) = some front ∧
          v.transform? (.slice 0 place length 1) = some back ∧
          (front.pack : Outcome RangeError (List UInt8)) = .ok (blocks.take place).flatten ∧
          (back.pack : Outcome RangeError (List UInt8)) = .ok (blocks.drop place).flatten ∧
          (v.pack : Outcome RangeError (List UInt8)) =
            .ok ((blocks.take place).flatten ++ (blocks.drop place).flatten)) ∧
        ∃ w, v.transform? (.invert 0) = some w ∧
          (w.pack : Outcome RangeError (List UInt8)) = .ok blocks.reverse.flatten) ∧
    ∀ axis ≤ v.shape.length, ∃ w, v.transform? (.insert axis) = some w ∧
      (w.pack : Outcome RangeError (List UInt8)) = v.pack := by
  obtain ⟨readable, size⟩ := readable_of_transformAll? based transformed
  rw [← size] at held
  constructor
  · intro length others axes
    refine ⟨v.blocks length others, v.length_blocks length others,
      readable.pack_eq_blocks held axes, ?_, ?_, ?_⟩
    · intro position inside
      exact readable.exists_select_pack_eq_ok held axes inside
    · intro place inside
      obtain ⟨front, first, packed⟩ :=
        readable.exists_slice_pack_eq_ok held axes (Nat.zero_le place) inside
      obtain ⟨back, second, packed'⟩ :=
        readable.exists_slice_pack_eq_ok held axes inside (Nat.le_refl length)
      refine ⟨front, back, first, second, packed, ?_, ?_⟩
      · rw [packed', List.take_of_length_le (by simp)]
      · rw [readable.pack_eq_blocks held axes, ← List.flatten_append, List.take_append_drop]
    · exact readable.exists_invert_pack_eq_ok held axes
  · intro axis place
    exact readable.exists_insert_pack_eq held place

/-- An array of two by two that lies column by column, with its rows in reverse order.  Inverted
once more it is packed to the rows as they were, each of them from its first element on. -/
theorem packed_by_first_axis_columns :
    ∃ (v w : View (Element .uint8)) (blocks : List (List UInt8)),
      (ofList? .columnMajor [2, 2] [⟨1⟩, ⟨2⟩, ⟨3⟩, ⟨4⟩]).bind (·.transformAll? [.invert 0]) =
        some v ∧
      v.transform? (.invert 0) = some w ∧ blocks.flatten = [2, 4, 1, 3] ∧
      (v.pack : Outcome RangeError (List UInt8)) = .ok blocks.flatten ∧
      (w.pack : Outcome RangeError (List UInt8)) = .ok blocks.reverse.flatten := by
  have based : ofList? .columnMajor [2, 2] ([⟨1⟩, ⟨2⟩, ⟨3⟩, ⟨4⟩] : List (Element .uint8)) =
      some ⟨#[⟨1⟩, ⟨2⟩, ⟨3⟩, ⟨4⟩], 0, [⟨2, 1⟩, ⟨2, 2⟩]⟩ := by decide
  have transformed : (⟨#[⟨1⟩, ⟨2⟩, ⟨3⟩, ⟨4⟩], 0, [⟨2, 1⟩, ⟨2, 2⟩]⟩ :
      View (Element .uint8)).transformAll? [.invert 0] =
        some ⟨#[⟨1⟩, ⟨2⟩, ⟨3⟩, ⟨4⟩], 1, [⟨2, -1⟩, ⟨2, 2⟩]⟩ := by decide
  obtain ⟨law, -⟩ := packed_by_first_axis (by decide) based transformed
  obtain ⟨blocks, -, packed, -, -, w, inverted, packed'⟩ := law 2 [2] rfl
  have bytes : (⟨#[⟨1⟩, ⟨2⟩, ⟨3⟩, ⟨4⟩], 1, [⟨2, -1⟩, ⟨2, 2⟩]⟩ : View (Element .uint8)).pack =
      (.ok [2, 4, 1, 3] : Outcome RangeError (List UInt8)) := by decide
  refine ⟨_, w, blocks, ?_, inverted, ?_, packed, packed'⟩
  · rw [based, Option.bind_some, transformed]
  · exact Outcome.ok.inj (packed.symm.trans bytes)

end View

end BytePacking
