import BytePacking.Blocks
import BytePacking.Shape

/-!
# Where an index stands among the indices of its shape

The logical order of indices is a list, `Shape.indices`, and `Shape.rank` computes the place of an
index in it from the lengths of the axes.  The two agree: every index of the shape stands at its
rank (`getElem?_indices_rank`), and the rank is less than the number of elements (`rank_lt_size`).
-/

set_option autoImplicit false

namespace BytePacking.Shape

/-- Without axes there is only the index without positions. -/
theorem eq_nil_of_contains_nil {index : List Nat} (h : Contains [] index) : index = [] :=
  List.length_eq_zero_iff.1 h.1

/-- An index of a shape with a first axis has a first position, and that lies on it. -/
theorem exists_of_contains_cons {length : Nat} {shape : Shape} {index : List Nat}
    (h : Contains (length :: shape) index) :
    ∃ position others, index = position :: others ∧ position < length ∧
      Contains shape others := by
  cases index with
  | nil => cases h.1
  | cons position others => exact ⟨position, others, rfl, contains_cons.1 h⟩

/-- A position lies on the axis at its place. -/
theorem lt_of_contains {shape : Shape} {index : List Nat} (h : Contains shape index)
    {axis position : Nat} (found : index[axis]? = some position) {length : Nat}
    (here : shape[axis]? = some length) : position < length :=
  h.2 (position, length) (List.mem_of_getElem? (List.getElem?_zip_eq_some.2 ⟨found, here⟩))

/-- There are as many indices as elements. -/
theorem length_enumerate (shape : Shape) : (enumerate shape).length = size shape := by
  rw [← indices_eq_enumerate, length_indices]

/-- The rank of an index is less than the number of elements. -/
theorem rank_lt_size {shape : Shape} {index : List Nat} (h : shape.Contains index) :
    shape.rank index < shape.size := by
  induction shape generalizing index with
  | nil =>
    obtain rfl := eq_nil_of_contains_nil h
    decide
  | cons length shape ih =>
    obtain ⟨position, others, rfl, here, there⟩ := exists_of_contains_cons h
    have inside := ih there
    calc rank (length :: shape) (position :: others)
        = position * size shape + rank shape others := rfl
      _ < (position + 1) * size shape := by
        rw [Nat.succ_mul]
        omega
      _ ≤ size (length :: shape) := Nat.mul_le_mul_right _ here

/-- Every number less than the number of elements is the rank of some index. -/
theorem exists_rank_eq {shape : Shape} {i : Nat} (h : i < shape.size) :
    ∃ index, shape.Contains index ∧ shape.rank index = i := by
  induction shape generalizing i with
  | nil =>
    have : i = 0 := Nat.lt_one_iff.1 h
    exact ⟨[], contains_nil, this.symm⟩
  | cons length shape ih =>
    rw [size_cons, Nat.mul_comm] at h
    have rows : 0 < size shape := by
      apply Nat.pos_of_ne_zero
      intro empty
      simp [empty] at h
    obtain ⟨others, there, rest⟩ := ih (Nat.mod_lt i rows)
    refine ⟨i / size shape :: others, contains_cons.2 ⟨Nat.div_lt_of_lt_mul h, there⟩, ?_⟩
    rw [rank, rest, Nat.div_add_mod']

/-- Every index of a shape stands at its rank. -/
theorem getElem?_indices_rank {shape : Shape} {index : List Nat} (h : shape.Contains index) :
    shape.indices[shape.rank index]? = some index := by
  rw [indices_eq_enumerate]
  induction shape generalizing index with
  | nil =>
    obtain rfl := eq_nil_of_contains_nil h
    rfl
  | cons length shape ih =>
    obtain ⟨position, others, rfl, here, there⟩ := exists_of_contains_cons h
    have rows : ∀ first ∈ List.range length,
        ((enumerate shape).map (first :: ·)).length = size shape := by
      intro first _
      rw [List.length_map, length_enumerate]
    rw [enumerate, rank, Blocks.getElem?_flatMap rows position (rank_lt_size there),
      List.getElem?_range here, Option.bind_some, List.getElem?_map, ih there, Option.map_some]

/-- No two indices have the same rank. -/
theorem eq_of_rank_eq {shape : Shape} {i j : List Nat} (hi : shape.Contains i)
    (hj : shape.Contains j) (same : shape.rank i = shape.rank j) : i = j := by
  have standing := getElem?_indices_rank hi
  rw [same, getElem?_indices_rank hj] at standing
  exact (Option.some.inj standing).symm

end BytePacking.Shape
