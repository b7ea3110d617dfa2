import BytePacking.Proofs.Shape.Extent
import BytePacking.View.Transform
import Mathlib.Data.List.Basic
import Mathlib.Data.Option.Basic

/-!
# What a transformation does to a view

Read an index as a list of pairs, each an axis with a position on it.  Then all transformations have
one form: at most one pair is exchanged for another, taken away or added, and the others stay, in
some order (`exchange_of_transform?`).  The exchange is such that no place in memory is reached that
was not reached before (`Replaces`).

Two facts follow for any transformation.  An index of the new view leads to the same address as its
source in the old one, which is an index there (`source_of_transform?`).  And the new view has
neither more elements nor a larger extent than the old one (`shrinks_of_transform?`).
-/

set_option autoImplicit false

namespace BytePacking.View

variable {α : Type}

/-! ## Axes with positions -/

/-- How far from the origin positions on axes lead. -/
def reach : List (Axis × Nat) → Int
  | [] => 0
  | (axis, position) :: pairs => axis.stride * position + reach pairs

/-- Every position lies on its axis. -/
def Inside (pairs : List (Axis × Nat)) : Prop := ∀ p ∈ pairs, p.2 < p.1.length

/-- The lengths of the axes. -/
def lengths (pairs : List (Axis × Nat)) : Shape := pairs.map fun p => p.1.length

/-- Positions on more axes lead as much farther. -/
theorem reach_append (ps qs : List (Axis × Nat)) : reach (ps ++ qs) = reach ps + reach qs := by
  induction ps with
  | nil => simp [reach]
  | cons p ps ih => simp only [List.cons_append, reach, ih, Int.add_assoc]

/-- In which order axes are counted makes no difference to how far they lead. -/
theorem reach_eq_of_perm {ps qs : List (Axis × Nat)} (h : ps.Perm qs) : reach ps = reach qs := by
  induction h with
  | nil => rfl
  | cons p _ ih => simp only [reach, ih]
  | swap p q rs => simp only [reach, Int.add_left_comm]
  | trans _ _ first second => exact first.trans second

/-- All positions lie on their axes if those of both parts do. -/
theorem inside_append {ps qs : List (Axis × Nat)} :
    Inside (ps ++ qs) ↔ Inside ps ∧ Inside qs := by
  simp only [Inside, List.forall_mem_append]

/-- In which order axes are looked at makes no difference to what lies on them. -/
theorem inside_of_perm {ps qs : List (Axis × Nat)} (h : ps.Perm qs) (inside : Inside ps) :
    Inside qs := by
  intro p hp
  exact inside p (h.mem_iff.2 hp)

/-- An index of a view gives every axis a position that lies on it. -/
theorem contains_shape_iff {v : View α} {index : List Nat} :
    v.shape.Contains index ↔ index.length = v.axes.length ∧ Inside (v.axes.zip index) := by
  unfold shape
  induction v.axes generalizing index with
  | nil => cases index <;> simp [Inside, Shape.Contains]
  | cons axis axes ih =>
    cases index with
    | nil => simp [Shape.Contains]
    | cons position index =>
      rw [List.map_cons, Shape.contains_cons, ih]
      simp only [Inside, List.length_cons, Nat.add_right_cancel_iff, List.zip_cons_cons,
        List.forall_mem_cons]
      exact and_left_comm

/-- An address is as far from the origin as the positions lead. -/
theorem address_eq (v : View α) (index : List Nat) :
    v.address index = v.origin + reach (v.axes.zip index) := by
  unfold address
  induction v.axes generalizing index with
  | nil => simp [reach]
  | cons axis axes ih =>
    cases index with
    | nil => simp [reach]
    | cons position index =>
      rw [List.zipWith_cons_cons, List.foldr_cons, ih, List.zip_cons_cons, reach,
        Int.add_left_comm]
      rfl

/-- The shape of a view is read off its axes, whatever the positions on them are. -/
theorem shape_eq_lengths (v : View α) {index : List Nat} (h : index.length = v.axes.length) :
    v.shape = lengths (v.axes.zip index) := by
  have axes : (v.axes.zip index).map Prod.fst = v.axes := List.map_fst_zip (Nat.le_of_eq h.symm)
  rw [shape, ← axes, List.map_map, axes]
  rfl

/-- One axis and its position can be taken out and put first. -/
theorem zip_perm_cons_eraseIdx {axes : List Axis} {index : List Nat} {k position : Nat}
    {axis : Axis} (ha : axes[k]? = some axis) (hp : index[k]? = some position) :
    (axes.zip index).Perm ((axis, position) :: (axes.eraseIdx k).zip (index.eraseIdx k)) := by
  induction k generalizing axes index with
  | zero =>
    cases axes with
    | nil => cases ha
    | cons a axes =>
      cases index with
      | nil => cases hp
      | cons p index =>
        cases ha
        cases hp
        exact .refl _
  | succ k ih =>
    cases axes with
    | nil => cases ha
    | cons a axes =>
      cases index with
      | nil => cases hp
      | cons p index => exact ((ih ha hp).cons (a, p)).trans (.swap ..)

/-! ## Exchanges -/

/-- With `old` in the place of `new`, every index leads from the old origin to where it led from the
new one, and the shape is no smaller. -/
structure Replaces (old new : List (Axis × Nat)) (oldOrigin newOrigin : Int) : Prop where
  /-- Positions that lie on the new axes come from positions that lie on the old ones. -/
  inside : Inside new → Inside old
  /-- Positions that lie on the new axes lead to where their sources lead. -/
  place : Inside new → oldOrigin + reach old = newOrigin + reach new
  /-- There are no more elements than before. -/
  size : (lengths new).size ≤ (lengths old).size
  /-- The extent is no larger than before. -/
  extent : (lengths new).extent ≤ (lengths old).extent

/-- Nothing may be exchanged for nothing. -/
theorem Replaces.refl (origin : Int) : Replaces [] [] origin origin :=
  ⟨id, fun _ => rfl, Nat.le_refl _, Nat.le_refl _⟩

/-- A single position lies on its axis if it is less than the length. -/
theorem inside_singleton {axis : Axis} {position : Nat} :
    Inside [(axis, position)] ↔ position < axis.length := by
  simp [Inside]

/-- A single position leads as many steps as it says. -/
theorem reach_singleton (axis : Axis) (position : Nat) :
    reach [(axis, position)] = axis.stride * position := by
  simp [reach]

/-- The last position of a reversed axis is the first one of the axis. -/
theorem replaces_invert (axis : Axis) (position : Nat) (origin : Int) :
    Replaces [(axis, axis.length - 1 - position)] [(⟨axis.length, -axis.stride⟩, position)]
      origin (origin + axis.stride * (axis.length - 1)) where
  inside := by
    rw [inside_singleton, inside_singleton]
    intro (inside : position < axis.length)
    omega
  place := by
    rw [inside_singleton, reach_singleton, reach_singleton]
    intro (inside : position < axis.length)
    -- The position lies on the axis, so that subtracting it is exact.
    have back : ((axis.length - 1 - position : Nat) : Int) =
        (axis.length - 1 : Int) - position := by omega
    rw [back, Int.mul_sub, Int.neg_mul]
    omega
  size := Nat.le_refl _
  extent := Nat.le_refl _

/-- A position that a slice takes lies between its bounds. -/
theorem slice_position {start stop position : Nat} {step : Int} (nonzero : step ≠ 0)
    (h : position < Transform.sliceLength start stop step) :
    start ≤ Transform.sliceOrigin start stop step + step * position ∧
      Transform.sliceOrigin start stop step + step * position < stop := by
  have pos : 0 < step.natAbs := Int.natAbs_pos.2 nonzero
  -- The number of positions is rounded up: a position counts if its step starts inside.
  have steps : position * step.natAbs < stop - start := by
    have := (Nat.lt_div_iff_mul_lt pos).1 h
    omega
  unfold Transform.sliceOrigin
  split
  · have forwards : step * position = ((position * step.natAbs : Nat) : Int) := by
      rw [Int.natCast_mul, Int.natAbs_of_nonneg (by omega), Int.mul_comm]
    omega
  · have backwards : step * position = -((position * step.natAbs : Nat) : Int) := by
      rw [Int.natCast_mul, Int.ofNat_natAbs_of_nonpos (by omega), Int.mul_neg, Int.neg_neg,
        Int.mul_comm]
    omega

/-- A slice takes no more positions than there are between its bounds. -/
theorem sliceLength_le {start stop : Nat} {step : Int} (nonzero : step ≠ 0) :
    Transform.sliceLength start stop step ≤ stop - start := by
  have pos : 0 < step.natAbs := Int.natAbs_pos.2 nonzero
  apply Nat.le_of_not_lt
  intro more
  have steps := (Nat.lt_div_iff_mul_lt pos).1 more
  have far : stop - start ≤ (stop - start) * step.natAbs := Nat.le_mul_of_pos_right _ pos
  omega

/-- A slice takes some of the positions of an axis. -/
theorem replaces_slice {axis : Axis} {start stop : Nat} {step : Int} (bound : stop ≤ axis.length)
    (nonzero : step ≠ 0) (position : Nat) (origin : Int) :
    Replaces [(axis, (Transform.sliceOrigin start stop step + step * position).toNat)]
      [(⟨Transform.sliceLength start stop step, axis.stride * step⟩, position)]
      origin (origin + axis.stride * Transform.sliceOrigin start stop step) where
  inside := by
    rw [inside_singleton, inside_singleton]
    intro inside
    have := slice_position nonzero inside
    omega
  place := by
    rw [inside_singleton, reach_singleton, reach_singleton]
    intro inside
    have taken := slice_position nonzero inside
    rw [Int.toNat_of_nonneg (by omega), Int.mul_add, Int.mul_assoc, Int.add_assoc]
  size := by
    have shorter : Transform.sliceLength start stop step ≤ stop - start := sliceLength_le nonzero
    simp only [lengths, List.map_cons, List.map_nil, Shape.size_cons, Shape.size_nil]
    omega
  extent := by
    have shorter : Transform.sliceLength start stop step ≤ stop - start := sliceLength_le nonzero
    simp only [lengths, List.map_cons, List.map_nil, Shape.extent_cons]
    apply Nat.mul_le_mul_right
    omega

/-- A position that is selected leads as far as the origin is moved. -/
theorem replaces_select {axis : Axis} {position : Nat} (h : position < axis.length)
    (origin : Int) :
    Replaces [(axis, position)] [] origin (origin + axis.stride * position) where
  inside := by
    intro _
    rwa [inside_singleton]
  place := by
    intro _
    rw [reach_singleton, reach, Int.add_zero]
  size := by
    simp only [lengths, List.map_cons, List.map_nil, Shape.size_cons, Shape.size_nil]
    omega
  extent := by
    -- An empty axis counts once in the extent, so this holds of any axis.
    simp only [lengths, List.map_cons, List.map_nil, Shape.extent_cons]
    exact Nat.le_mul_of_pos_left _ (by omega)

/-- A new axis of length one leads nowhere. -/
theorem replaces_insert (position : Nat) (origin : Int) :
    Replaces [] [(⟨1, 0⟩, position)] origin origin where
  inside := by
    intro _
    simp [Inside]
  place := by
    intro _
    rw [reach_singleton, Int.zero_mul]
    rfl
  size := Nat.le_refl _
  extent := Nat.le_refl _

/-- An index of one view comes from an index of another by an exchange of pairs. -/
inductive Exchange (v w : View α) (before after : List Nat) : Prop where
  | intro (old new rest : List (Axis × Nat))
    (count : before.length = v.axes.length)
    (from_old : (v.axes.zip before).Perm (old ++ rest))
    (to_new : (w.axes.zip after).Perm (new ++ rest))
    (replaces : Replaces old new v.origin w.origin)

variable {v w : View α} {before after : List Nat}

/-- An index leads to the same address as the one that it comes from. -/
theorem Exchange.source (h : Exchange v w before after) (inside : w.shape.Contains after) :
    v.shape.Contains before ∧ v.address before = w.address after := by
  obtain ⟨old, new, rest, count, fromOld, toNew, replaces⟩ := h
  -- Orders of pairs matter neither to what lies inside nor to how far it reaches.
  have there := inside_of_perm toNew (contains_shape_iff.1 inside).2
  obtain ⟨insideNew, insideRest⟩ := inside_append.1 there
  constructor
  · rw [contains_shape_iff]
    refine ⟨count, inside_of_perm fromOld.symm ?_⟩
    exact inside_append.2 ⟨replaces.inside insideNew, insideRest⟩
  · have place := replaces.place insideNew
    rw [address_eq, address_eq, reach_eq_of_perm fromOld, reach_eq_of_perm toNew, reach_append,
      reach_append]
    omega

/-- Of two sizes of shapes that are products over the axes, both become no larger. -/
theorem Exchange.shrinks (h : Exchange v w before after) (count : after.length = w.axes.length) :
    w.shape.size ≤ v.shape.size ∧ w.shape.extent ≤ v.shape.extent := by
  obtain ⟨old, new, rest, count', fromOld, toNew, replaces⟩ := h
  have oldShape : v.shape.Perm (lengths old ++ lengths rest) := by
    rw [shape_eq_lengths v count', lengths, lengths, lengths, ← List.map_append]
    exact fromOld.map _
  have newShape : w.shape.Perm (lengths new ++ lengths rest) := by
    rw [shape_eq_lengths w count, lengths, lengths, lengths, ← List.map_append]
    exact toNew.map _
  constructor
  · rw [Shape.size_eq_of_perm oldShape, Shape.size_eq_of_perm newShape, Shape.size_append,
      Shape.size_append]
    exact Nat.mul_le_mul_right _ replaces.size
  · rw [Shape.extent_eq_of_perm oldShape, Shape.extent_eq_of_perm newShape, Shape.extent_append,
      Shape.extent_append]
    exact Nat.mul_le_mul_right _ replaces.extent

/-! ## Transformations -/

/-- Where an order names all axes, none of them is left out. -/
theorem filterMap_getElem?_eq_map {β : Type} {xs : List β} {order : List Nat} (fill : β)
    (perm : order.Perm (List.range xs.length)) :
    order.filterMap (xs[·]?) = order.map fun k => xs.getD k fill := by
  rw [List.filterMap_eq_map_iff_forall_eq_some]
  intro k hk
  have named : k < xs.length := List.mem_range.1 (perm.mem_iff.1 hk)
  simp [named]

/-- The axes in another order, each with its own position. -/
theorem zip_permute {axes : List Axis} {order index : List Nat}
    (perm : order.Perm (List.range axes.length)) (count : index.length = order.length) :
    (axes.zip ((List.range axes.length).map fun axis => index.getD (order.idxOf axis) 0)).Perm
      ((order.filterMap (axes[·]?)).zip index) := by
  have nodup : order.Nodup := perm.nodup_iff.2 List.nodup_range
  -- Both lists of axes are read from their numbers, and so are both lists of positions.
  have old : axes = (List.range axes.length).map fun k => axes.getD k ⟨0, 0⟩ := by
    apply List.ext_getElem
    · simp
    · intro k hk _
      simp [hk]
  have positions : index = order.map fun k => index.getD (order.idxOf k) 0 := by
    apply List.ext_getElem
    · simp [count]
    · intro k hk _
      simp [nodup.idxOf_getElem, hk]
  rw [filterMap_getElem?_eq_map ⟨0, 0⟩ perm]
  conv => lhs; lhs; rw [old]
  conv => rhs; rhs; rw [positions]
  rw [List.zip_map', List.zip_map']
  exact (perm.map _).symm

/-- One axis is replaced by another. -/
theorem exchange_replaceAxis {axis : Nat} {old new : Axis} {shift : Int} {source : Nat → Nat}
    (found : v.axes[axis]? = some old) (count : after.length = v.axes.length)
    (replaces : ∀ p, Replaces [(old, source p)] [(new, p)] v.origin (v.origin + shift)) :
    Exchange v (v.replaceAxis axis new shift) (after.modify axis source) after := by
  obtain ⟨bound, -⟩ := List.getElem?_eq_some_iff.1 found
  have position : after[axis]? = some after[axis] := List.getElem?_eq_getElem (by omega)
  have sources : (after.modify axis source)[axis]? = some (source after[axis]) := by
    rw [List.getElem?_modify_eq, position]
    rfl
  have replaced : (v.axes.set axis new)[axis]? = some new := List.getElem?_set_self bound
  have fromOld := zip_perm_cons_eraseIdx found sources
  have toNew := zip_perm_cons_eraseIdx replaced position
  rw [List.eraseIdx_modify_of_eq] at fromOld
  rw [List.eraseIdx_set_eq] at toNew
  refine .intro [(old, source after[axis])] [(new, after[axis])] _ ?_ fromOld toNew
    (replaces after[axis])
  rw [List.length_modify, count]

/-- Every transformation is an exchange of at most one pair, whatever the index is that it leads
to. -/
theorem exchange_of_transform? {transform : Transform} (h : v.transform? transform = some w)
    (count : after.length = w.axes.length) :
    Exchange v w (transform.source v.shape after) after := by
  have rank : v.shape.length = v.axes.length := List.length_map ..
  cases transform with
  | reverseAxes =>
    -- All pairs stay, in reverse order.
    obtain rfl := Option.some.inj h
    rw [List.length_reverse] at count
    have reversed : (v.axes.zip after.reverse).reverse = v.axes.reverse.zip after := by
      rw [List.zip, List.reverse_zipWith (by rw [List.length_reverse, count]), List.reverse_reverse]
    refine ⟨[], [], v.axes.reverse.zip after, ?_, ?_, .refl _, .refl _⟩
    · rw [Transform.source, List.length_reverse, count]
    · rw [List.nil_append, ← reversed]
      exact (List.reverse_perm _).symm
  | permute order =>
    -- All pairs stay, in the order that is asked for.
    obtain ⟨perm, h⟩ := Option.ite_none_right_eq_some.1 h
    obtain rfl := Option.some.inj h
    rw [filterMap_getElem?_eq_map ⟨0, 0⟩ perm, List.length_map] at count
    refine ⟨[], [], _, ?_, ?_, .refl _, .refl _⟩
    · rw [Transform.source, List.length_map, List.length_range, rank]
    · rw [Transform.source, rank]
      exact zip_permute perm count
  | invert axis =>
    obtain ⟨old, found, h⟩ := Option.bind_eq_some_iff.1 h
    obtain rfl := Option.some.inj h
    have length : v.shape.getD axis 0 = old.length := by
      rw [shape, List.getD_eq_getElem?_getD, List.getElem?_map, found]
      rfl
    rw [Transform.source, length]
    apply exchange_replaceAxis found
    · rw [count, replaceAxis, List.length_set]
    · intro p
      exact replaces_invert old p v.origin
  | slice axis start stop step =>
    obtain ⟨old, found, h⟩ := Option.bind_eq_some_iff.1 h
    obtain ⟨_, valid, h⟩ := Option.bind_eq_some_iff.1 h
    obtain rfl := Option.some.inj h
    obtain ⟨-, bound, nonzero⟩ := (Option.guard_eq_some' _).1 valid
    apply exchange_replaceAxis found
    · rw [count, replaceAxis, List.length_set]
    · intro p
      exact replaces_slice bound nonzero p v.origin
  | select axis position =>
    obtain ⟨old, found, h⟩ := Option.bind_eq_some_iff.1 h
    obtain ⟨_, valid, h⟩ := Option.bind_eq_some_iff.1 h
    obtain rfl := Option.some.inj h
    -- The pair of the axis and the position is there before and not after.
    have inside : position < old.length := (Option.guard_eq_some' _).1 valid
    obtain ⟨bound, -⟩ := List.getElem?_eq_some_iff.1 found
    rw [List.length_eraseIdx_of_lt bound] at count
    have place : axis ≤ after.length := by omega
    have selected : (after.insertIdx axis position)[axis]? = some position := by
      rw [List.getElem?_insertIdx_self, if_pos place]
    have fromOld := zip_perm_cons_eraseIdx found selected
    rw [List.eraseIdx_insertIdx_self] at fromOld
    refine .intro [(old, position)] [] _ ?_ fromOld (.refl _) (replaces_select inside v.origin)
    rw [Transform.source, List.length_insertIdx_of_le_length place]
    omega
  | insert axis =>
    -- The pair of the new axis and its position is there after and not before.
    obtain ⟨place, h⟩ := Option.ite_none_right_eq_some.1 h
    obtain rfl := Option.some.inj h
    rw [List.length_insertIdx_of_le_length place] at count
    have position : after[axis]? = some after[axis] := List.getElem?_eq_getElem (by omega)
    have inserted : (v.axes.insertIdx axis ⟨1, 0⟩)[axis]? = some ⟨1, 0⟩ := by
      rw [List.getElem?_insertIdx_self, if_pos place]
    have toNew := zip_perm_cons_eraseIdx inserted position
    rw [List.eraseIdx_insertIdx_self] at toNew
    refine .intro [] [(⟨1, 0⟩, after[axis])] _ ?_ (.refl _) toNew
      (replaces_insert after[axis] v.origin)
    rw [Transform.source, List.length_eraseIdx_of_lt (by omega)]
    omega

/-- An index of a transformed view leads to the address to which its source led before. -/
theorem source_of_transform? {transform : Transform} (h : v.transform? transform = some w)
    {index : List Nat} (inside : w.shape.Contains index) :
    v.shape.Contains (transform.source v.shape index) ∧
      v.address (transform.source v.shape index) = w.address index := by
  have count := (contains_shape_iff.1 inside).1
  exact (exchange_of_transform? h count).source inside

/-- A transformation makes neither more elements nor a larger extent. -/
theorem shrinks_of_transform? {transform : Transform} (h : v.transform? transform = some w) :
    w.shape.size ≤ v.shape.size ∧ w.shape.extent ≤ v.shape.extent := by
  -- The sizes of the shapes do not depend on the index, so any of the right length will do.
  have count : (List.replicate w.axes.length 0).length = w.axes.length := List.length_replicate
  exact (exchange_of_transform? h count).shrinks count

end BytePacking.View
