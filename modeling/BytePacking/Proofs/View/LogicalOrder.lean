import BytePacking.Proofs.ElementList
import BytePacking.Proofs.View.Reading
import BytePacking.Proofs.View.Source
import Mathlib.Logic.ExistsUnique

/-!
# Views are packed in logical order

The bytes of a view are those of its elements, in the logical order of the view's own indices,
whatever the order is in which the elements lie in memory (`packed_in_logical_order`).  A chain of
transformations decides which element of the memory stands at an index: it is the one at the index
that it comes from, at the place that the layout of the memory gives to that index.  So transposed,
reversed and strided views are packed like arrays that were never transformed.

Nothing is left out and nothing is packed twice.  The bytes are as many as those of all elements,
each of them belongs to the element at one index, and different indices present different places of
the memory.
-/

set_option autoImplicit false

namespace BytePacking.View

variable {t : ElementType}

/-- Each byte of a list of elements that stand in logical order belongs to the element at one
index. -/
theorem existsUnique_index {shape : Shape} {width p : Nat} (pos : 0 < width)
    (inside : p < shape.size * width) :
    ∃! index, shape.Contains index ∧
      width * shape.rank index ≤ p ∧ p < width * shape.rank index + width := by
  obtain ⟨index, contains, rank⟩ := Shape.exists_rank_eq ((Nat.div_lt_iff_lt_mul pos).2 inside)
  refine ⟨index, ⟨contains, ?_, ?_⟩, ?_⟩
  · rw [rank]
    exact Nat.mul_div_le p width
  · rw [rank, Nat.mul_comm]
    exact Nat.lt_div_mul_add pos
  · rintro other ⟨contains', low, high⟩
    have rank' : p / width = shape.rank other := by
      rw [Nat.div_eq_iff pos, Nat.mul_comm]
      omega
    exact Shape.eq_of_rank_eq contains' contains (rank'.symm.trans rank.symm)

/-- What a view presents at an index is the element of the memory at the place of the index that it
comes from. -/
theorem getElem?_place_of_read {layout : Layout} {shape : Shape} {memory : List (Element t)}
    {v : View (Element t)} {before after : List Nat} {x : Element t}
    (same : v.memory = (base layout shape memory).memory) (inside : shape.Contains before)
    (address : (base layout shape memory).address before = v.address after)
    (h : (v.read (v.address after) : Outcome RangeError (Element t)) = .ok x) :
    memory[layout.place shape before]? = some x := by
  rw [← address, address_base layout memory inside, read, same] at h
  have there := read_base (ε := RangeError) layout shape memory (layout.place shape before)
  rw [read, h] at there
  exact Outcome.ofOptionOrTrap_eq_ok_iff.1 there.symm

/-- The bytes of a view that comes from the view of a whole memory by a chain of transformations; as
for every array, it is understood that the memory can be held.  Which chains apply, and to what shape
they lead, is decided by the shape of the memory.  If one applies, the view is packed to as many
bytes as its elements have, and behind so many widths as the rank of an index says there are the
bytes of one element of the memory, at the place of the index that this index comes from.  Each byte
belongs to one index, and each index to another place. -/
theorem packed_in_logical_order {layout : Layout} {shape : Shape} {memory : List (Element t)}
    {whole : View (Element t)} (transforms : List Transform)
    (held : memory.length * t.width ≤ AddressSpace.allocationLimit)
    (based : ofList? layout shape memory = some whole) :
    (whole.transformAll? transforms).map View.shape =
      (Transform.reindex? transforms shape).map Reindexing.shape ∧
    ∀ (v : View (Element t)) (r : Reindexing), whole.transformAll? transforms = some v →
      Transform.reindex? transforms shape = some r →
      ∃ packed, (v.pack : Outcome RangeError (List UInt8)) = .ok packed ∧
        packed.length = v.shape.size * t.width ∧
        (∀ index, v.shape.Contains index →
          ∃ x, shape.Contains (r.source index) ∧
            memory[layout.place shape (r.source index)]? = some x ∧
            (packed.drop (t.width * v.shape.rank index)).take t.width = x.toBytes) ∧
        (∀ p < packed.length, ∃! index, v.shape.Contains index ∧
          t.width * v.shape.rank index ≤ p ∧ p < t.width * v.shape.rank index + t.width) ∧
        ∀ i j, v.shape.Contains i → v.shape.Contains j →
          layout.place shape (r.source i) = layout.place shape (r.source j) → i = j := by
  obtain ⟨⟨count, allocatable⟩, presented⟩ := Option.ite_none_right_eq_some.1 based
  obtain rfl := Option.some.inj presented
  constructor
  · have shapes := shape_transformAll? (base layout shape memory) transforms
    rwa [shape_base] at shapes
  · intro v r transformed valid
    obtain ⟨readable, same⟩ :=
      (readable_base layout count allocatable).transformAll? transformed
    have room : v.memory.size * t.width ≤ AddressSpace.allocationLimit := by rwa [same]
    obtain ⟨values, packed, number, single⟩ := readable.exists_pack_eq_ok (ε := RangeError) room
    have bytes : (values.flatMap Element.toBytes).length = v.shape.size * t.width := by
      rw [Element.length_flatMap_toBytes, number]
    obtain ⟨leads, injective⟩ := source_of_transformAll? transformed (by rwa [shape_base])
    rw [shape_base] at leads
    refine ⟨_, packed, bytes, ?_, ?_, ?_⟩
    · intro index inside
      obtain ⟨before, address⟩ := leads index inside
      obtain ⟨x, here, value⟩ := single index inside
      refine ⟨x, before, getElem?_place_of_read same before address here, ?_⟩
      rw [Nat.mul_comm, Element.take_drop_flatMap_toBytes value]
    · intro p hp
      rw [bytes] at hp
      exact existsUnique_index t.width_pos hp
    · intro i j hi hj samePlace
      apply injective i j hi hj
      exact layout.eq_of_place_eq (leads i hi).1 (leads j hj).1 samePlace

/-- An array of two by three that lies column by column.  Of its transpose the rows are taken in
steps of two from the last one on, a new axis is put between, and the columns are reversed.  At the
index of the second row and its first column stands the element that was the first of the second row
of the array, which lies second in memory. -/
theorem packed_in_logical_order_columns :
    ∃ (whole v : View (Element .int16)) (r : Reindexing),
      ofList? .columnMajor [2, 3] [⟨1⟩, ⟨2⟩, ⟨3⟩, ⟨4⟩, ⟨5⟩, ⟨0xFFFE⟩] = some whole ∧
      whole.transformAll? [.permute [1, 0], .slice 0 0 3 (-2), .insert 1, .invert 2] = some v ∧
      Transform.reindex? [.permute [1, 0], .slice 0 0 3 (-2), .insert 1, .invert 2] [2, 3] =
        some r ∧
      v.shape = [2, 1, 2] ∧ r.source [1, 0, 0] = [1, 0] ∧
      (v.pack : Outcome RangeError (List UInt8)) = .ok [0xFF, 0xFE, 0, 5, 0, 2, 0, 1] ∧
      ∃ packed, (v.pack : Outcome RangeError (List UInt8)) = .ok packed ∧ packed.length = 8 ∧
        ∃ x : Element .int16, [⟨1⟩, ⟨2⟩, ⟨3⟩, ⟨4⟩, ⟨5⟩, ⟨0xFFFE⟩][1]? = some x ∧
          (packed.drop 4).take 2 = x.toBytes := by
  have based : ofList? .columnMajor [2, 3]
      ([⟨1⟩, ⟨2⟩, ⟨3⟩, ⟨4⟩, ⟨5⟩, ⟨0xFFFE⟩] : List (Element .int16)) =
        some ⟨#[⟨1⟩, ⟨2⟩, ⟨3⟩, ⟨4⟩, ⟨5⟩, ⟨0xFFFE⟩], 0, [⟨2, 1⟩, ⟨3, 2⟩]⟩ := by decide
  have transformed : (⟨#[⟨1⟩, ⟨2⟩, ⟨3⟩, ⟨4⟩, ⟨5⟩, ⟨0xFFFE⟩], 0, [⟨2, 1⟩, ⟨3, 2⟩]⟩ :
      View (Element .int16)).transformAll?
        [.permute [1, 0], .slice 0 0 3 (-2), .insert 1, .invert 2] =
      some ⟨#[⟨1⟩, ⟨2⟩, ⟨3⟩, ⟨4⟩, ⟨5⟩, ⟨0xFFFE⟩], 5, [⟨2, -4⟩, ⟨1, 0⟩, ⟨2, -1⟩]⟩ := by decide
  obtain ⟨-, law⟩ := packed_in_logical_order
    [.permute [1, 0], .slice 0 0 3 (-2), .insert 1, .invert 2] (by decide) based
  obtain ⟨packed, pack, length, elements, -⟩ := law _ _ transformed rfl
  obtain ⟨x, -, stored, bytes⟩ := elements [1, 0, 0] (by decide)
  exact ⟨_, _, _, based, transformed, rfl, by decide, by decide, by decide, packed, pack, length, x,
    stored, bytes⟩

end BytePacking.View
