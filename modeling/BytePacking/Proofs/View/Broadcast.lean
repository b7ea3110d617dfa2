import BytePacking.Proofs.View.Reading
import BytePacking.View.Broadcast

/-!
# Views that are broadcast

A view that is broadcast presents nothing but elements of the view before it: every index leads to
where some index led before (`exists_source_of_broadcast?`).  So it is valid if that view is
(`Valid.broadcast?`), and it has the shape that it was asked for, however few elements there are in
memory.

What bounds the number of its elements is a bound on elements and not on bytes.  Unlike the views
that transformations make, a valid view of this kind may have more bytes than an array can have.
-/

set_option autoImplicit false

namespace BytePacking

/-- A stretched axis has the length that it was asked for. -/
theorem Axis.length_of_stretch? {axis new : Axis} {length : Nat}
    (h : axis.stretch? length = some new) : new.length = length := by
  unfold stretch? at h
  split at h
  · next same =>
    obtain rfl := Option.some.inj h
    exact same
  · obtain ⟨-, h⟩ := Option.ite_none_right_eq_some.1 h
    obtain rfl := Option.some.inj h
    rfl

/-- A position on a stretched axis leads as far as some position on the axis did. -/
theorem Axis.exists_position_of_stretch? {axis new : Axis} {length position : Nat}
    (h : axis.stretch? length = some new) (inside : position < new.length) :
    ∃ source < axis.length, axis.stride * source = new.stride * position := by
  unfold stretch? at h
  split at h
  · obtain rfl := Option.some.inj h
    exact ⟨position, inside, rfl⟩
  · obtain ⟨one, h⟩ := Option.ite_none_right_eq_some.1 h
    obtain rfl := Option.some.inj h
    exact ⟨0, by omega, by simp⟩

namespace View

variable {α : Type}

/-- New axes lead nowhere. -/
theorem reach_map_zero (lengths : Shape) (index : List Nat) :
    reach ((lengths.map (⟨·, 0⟩)).zip index) = 0 := by
  induction lengths generalizing index with
  | nil => rfl
  | cons length lengths ih =>
    cases index with
    | nil => rfl
    | cons position index => rw [List.map_cons, List.zip_cons_cons, reach, ih, Int.zero_mul]; rfl

/-- Stretched axes have the lengths that they were asked for. -/
theorem lengths_of_stretched {pairs : List (Axis × Nat)} {stretched : List Axis}
    (h : (pairs.mapM fun p => p.1.stretch? p.2) = some stretched) :
    stretched.map Axis.length = pairs.map Prod.snd := by
  induction pairs generalizing stretched with
  | nil =>
    obtain rfl := Option.some.inj h
    rfl
  | cons p pairs ih =>
    rw [List.mapM_cons] at h
    obtain ⟨new, first, h⟩ := Option.bind_eq_some_iff.1 h
    obtain ⟨others, rest, h⟩ := Option.bind_eq_some_iff.1 h
    obtain rfl := Option.some.inj h
    rw [List.map_cons, List.map_cons, Axis.length_of_stretch? first, ih rest]

/-- Positions on stretched axes lead as far as some positions on the axes did. -/
theorem exists_source_of_stretched {pairs : List (Axis × Nat)} {stretched : List Axis}
    (h : (pairs.mapM fun p => p.1.stretch? p.2) = some stretched) {index : List Nat}
    (count : index.length = stretched.length) (inside : Inside (stretched.zip index)) :
    ∃ source : List Nat, source.length = pairs.length ∧
      Inside ((pairs.map Prod.fst).zip source) ∧
      reach ((pairs.map Prod.fst).zip source) = reach (stretched.zip index) := by
  induction pairs generalizing stretched index with
  | nil =>
    obtain rfl := Option.some.inj h
    exact ⟨[], rfl, nofun, rfl⟩
  | cons p pairs ih =>
    rw [List.mapM_cons] at h
    obtain ⟨new, first, h⟩ := Option.bind_eq_some_iff.1 h
    obtain ⟨others, rest, h⟩ := Option.bind_eq_some_iff.1 h
    obtain rfl := Option.some.inj h
    cases index with
    | nil => cases count
    | cons position index =>
      obtain ⟨here, there⟩ := List.forall_mem_cons.1 inside
      obtain ⟨source, onAxis, far⟩ := Axis.exists_position_of_stretch? first here
      obtain ⟨sources, counted, onAxes, farther⟩ := ih rest (Nat.succ.inj count) there
      refine ⟨source :: sources, congrArg Nat.succ counted, ?_, ?_⟩
      · exact List.forall_mem_cons.2 ⟨onAxis, onAxes⟩
      · rw [List.map_cons, List.zip_cons_cons, List.zip_cons_cons, reach, reach, far, farther]

/-- The axes of a view that is broadcast are new ones and then those of the view before it,
stretched to the last lengths of the shape. -/
theorem exists_axes_of_broadcast? {v w : View α} {shape : Shape}
    (h : v.broadcast? shape = some w) :
    shape.Allocatable ∧ ∃ (added lengths : Shape) (stretched : List Axis),
      shape = added ++ lengths ∧ lengths.length = v.axes.length ∧
        ((v.axes.zip lengths).mapM fun p => p.1.stretch? p.2) = some stretched ∧
        w = { v with axes := added.map (⟨·, 0⟩) ++ stretched } := by
  obtain ⟨_, checked, h⟩ := Option.bind_eq_some_iff.1 h
  obtain ⟨stretched, applied, h⟩ := Option.bind_eq_some_iff.1 h
  obtain ⟨few, allocatable⟩ := (Option.guard_eq_some' _).1 checked
  refine ⟨allocatable, _, _, stretched, (List.take_append_drop _ shape).symm, ?_, applied,
    (Option.some.inj h).symm⟩
  rw [List.length_drop]
  omega

/-- A view that is broadcast has the shape that it was asked for. -/
theorem shape_of_broadcast? {v w : View α} {shape : Shape} (h : v.broadcast? shape = some w) :
    w.shape = shape := by
  obtain ⟨-, added, lengths, stretched, rfl, count, applied, rfl⟩ := exists_axes_of_broadcast? h
  have asked : (v.axes.zip lengths).map Prod.snd = lengths :=
    List.map_snd_zip (Nat.le_of_eq count)
  rw [View.shape, List.map_append, lengths_of_stretched applied, asked, List.map_map]
  congr 1
  exact List.map_id added

/-- An index of a view that is broadcast leads to where an index of the view before led. -/
theorem exists_source_of_broadcast? {v w : View α} {shape : Shape}
    (h : v.broadcast? shape = some w) {index : List Nat} (inside : w.shape.Contains index) :
    ∃ source, v.shape.Contains source ∧ v.address source = w.address index := by
  obtain ⟨-, added, lengths, stretched, -, count, applied, rfl⟩ := exists_axes_of_broadcast? h
  have kept : (v.axes.zip lengths).map Prod.fst = v.axes :=
    List.map_fst_zip (Nat.le_of_eq count.symm)
  -- The first positions are on new axes, and the others on those that were stretched.
  obtain ⟨counted, onAxes⟩ := contains_shape_iff.1 inside
  obtain ⟨front, back, rfl, front_length⟩ :
      ∃ front back, index = front ++ back ∧ front.length = added.length := by
    refine ⟨_, _, (List.take_append_drop added.length index).symm, ?_⟩
    rw [List.length_append, List.length_map] at counted
    rw [List.length_take]
    omega
  have pairs : (added.map (⟨·, 0⟩ : Nat → Axis) ++ stretched).zip (front ++ back) =
      (added.map (⟨·, 0⟩)).zip front ++ stretched.zip back :=
    List.zip_append (by rw [List.length_map, front_length])
  have back_length : back.length = stretched.length := by
    rw [List.length_append, List.length_append, List.length_map] at counted
    omega
  rw [pairs] at onAxes
  obtain ⟨source, length, inside', far⟩ :=
    exists_source_of_stretched applied back_length (inside_append.1 onAxes).2
  rw [kept] at inside' far
  refine ⟨source, contains_shape_iff.2 ⟨?_, inside'⟩, ?_⟩
  · rw [length, List.length_zip, count, Nat.min_self]
  · rw [address_eq, address_eq, pairs, reach_append, reach_map_zero, Int.zero_add, far]

/-- A view that is broadcast is valid if the view before is. -/
theorem Valid.broadcast? {v w : View α} {shape : Shape} (valid : v.Valid)
    (h : v.broadcast? shape = some w) : w.Valid := by
  have memory : w.memory = v.memory := by
    obtain ⟨-, _, _, _, -, -, -, rfl⟩ := exists_axes_of_broadcast? h
    rfl
  constructor
  · intro index inside
    obtain ⟨source, inside', address⟩ := exists_source_of_broadcast? h inside
    rw [← address, memory]
    exact valid.address source inside'
  · rw [shape_of_broadcast? h]
    exact (exists_axes_of_broadcast? h).1

end View

end BytePacking
