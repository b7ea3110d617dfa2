import BytePacking.Proofs.Shape.Rank
import BytePacking.Proofs.View.Exchange
import Mathlib.Data.List.GetD
import Mathlib.Data.List.InsertIdx

/-!
# Where the indices of a transformed view come from

What a transformation does to a view can be said without its strides: the lengths of the axes before
it determine whether it applies and the lengths after it (`Transform.target?`), and they determine
for every index the one that it comes from (`Transform.source`).  A chain of transformations
composes these maps, the first transformation being applied last to an index (`Transform.reindex?`).

This is what happens to a view.  A chain applies to it exactly if it applies to its shape
(`View.shape_transformAll?`), and every index of the result leads to the address to which the index
that it comes from led before (`View.source_of_transformAll?`).  No two indices come from the same
one, so that no chain presents an element twice.
-/

set_option autoImplicit false

namespace BytePacking

/-- What a chain of transformations makes of the arrays of one shape. -/
structure Reindexing where
  /-- The lengths of the axes after the chain. -/
  shape : Shape
  /-- The index, before the chain, of the element at an index after it. -/
  source : List Nat → List Nat

namespace Transform

/-- The lengths of the axes after a transformation of an array with axes of the given lengths, if it
speaks only of axes and positions that there are. -/
def target? (transform : Transform) (lengths : Shape) : Option Shape :=
  match transform with
  | reverseAxes => some lengths.reverse
  | permute order =>
    if order.Perm (List.range lengths.length) then
      some (order.map fun axis => lengths.getD axis 0)
    else none
  | invert axis => if axis < lengths.length then some lengths else none
  | slice axis start stop step => do
    let length ← lengths[axis]?
    guard (start ≤ stop ∧ stop ≤ length ∧ step ≠ 0)
    return lengths.set axis (sliceLength start stop step)
  | select axis position => do
    let length ← lengths[axis]?
    guard (position < length)
    return lengths.eraseIdx axis
  | insert axis => if axis ≤ lengths.length then some (lengths.insertIdx axis 1) else none

/-- What a chain of transformations makes of an array with axes of the given lengths, if each of
them applies to what those before it have left. -/
def reindex? : List Transform → Shape → Option Reindexing
  | [], lengths => some ⟨lengths, id⟩
  | transform :: transforms, lengths => do
    let next ← transform.target? lengths
    let others ← reindex? transforms next
    return ⟨others.shape, transform.source lengths ∘ others.source⟩

/-! ## No two indices come from the same one -/

/-- Two indices are equal if they are so after one position of each has been changed, provided that
no two positions there are changed to the same one. -/
theorem eq_of_modify_eq {f : Nat → Nat} {i j : List Nat} {k : Nat}
    (same : i.modify k f = j.modify k f)
    (injective : ∀ p q, i[k]? = some p → j[k]? = some q → f p = f q → p = q) : i = j := by
  apply List.ext_getElem?
  intro n
  have here := congrArg (·[n]?) same
  simp only [List.getElem?_modify] at here
  by_cases changed : k = n
  · subst changed
    rcases hi : i[k]? with _ | p
    · rcases hj : j[k]? with _ | q
      · rfl
      · simp [hi, hj] at here
    · rcases hj : j[k]? with _ | q
      · simp [hi, hj] at here
      · have images : f p = f q := by simpa [hi, hj] using here
        rw [injective p q hi hj images]
  · simpa [if_neg changed] using here

/-- Two indices are equal if they are so after all positions have been put in the same new order. -/
theorem eq_of_permuted_eq {order i j : List Nat} {n : Nat} (perm : order.Perm (List.range n))
    (hi : i.length = order.length) (hj : j.length = order.length)
    (same : ((List.range n).map fun axis => i.getD (order.idxOf axis) 0) =
      (List.range n).map fun axis => j.getD (order.idxOf axis) 0) : i = j := by
  have nodup : order.Nodup := perm.nodup_iff.2 List.nodup_range
  apply List.ext_getElem (hi.trans hj.symm)
  intro k hk hk'
  -- The position at place `k` is found under the axis that `order` names there.
  have named : order[k] ∈ List.range n := perm.mem_iff.1 (List.getElem_mem _)
  have here := List.map_inj_left.1 same order[k] named
  rw [nodup.idxOf_getElem] at here
  simpa [hk, hk'] using here

/-- An index of the result is determined by the index that it comes from. -/
theorem eq_of_source_eq {transform : Transform} {lengths next : Shape}
    (h : transform.target? lengths = some next) {i j : List Nat} (hi : next.Contains i)
    (hj : next.Contains j) (same : transform.source lengths i = transform.source lengths j) :
    i = j := by
  cases transform with
  | reverseAxes => exact List.reverse_injective same
  | permute order =>
    obtain ⟨perm, h⟩ := Option.ite_none_right_eq_some.1 h
    obtain rfl := Option.some.inj h
    have count := hi.1
    have count' := hj.1
    rw [List.length_map] at count count'
    exact eq_of_permuted_eq perm count count' same
  | invert axis =>
    obtain ⟨bound, h⟩ := Option.ite_none_right_eq_some.1 h
    obtain rfl := Option.some.inj h
    apply eq_of_modify_eq same
    intro p q hp hq images
    have length := List.getElem?_eq_getElem bound
    have inside := Shape.lt_of_contains hi hp length
    have inside' := Shape.lt_of_contains hj hq length
    rw [List.getD_eq_getElem?_getD, length, Option.getD_some] at images
    omega
  | slice axis start stop step =>
    obtain ⟨length, found, h⟩ := Option.bind_eq_some_iff.1 h
    obtain ⟨_, valid, h⟩ := Option.bind_eq_some_iff.1 h
    obtain rfl := Option.some.inj h
    obtain ⟨-, -, nonzero⟩ := (Option.guard_eq_some' _).1 valid
    obtain ⟨bound, -⟩ := List.getElem?_eq_some_iff.1 found
    apply eq_of_modify_eq same
    intro p q hp hq images
    have taken := List.getElem?_set_self (a := sliceLength start stop step) bound
    have place := View.slice_position nonzero (Shape.lt_of_contains hi hp taken)
    have place' := View.slice_position nonzero (Shape.lt_of_contains hj hq taken)
    have products : step * (p : Int) = step * q := by omega
    exact Int.ofNat.inj (Int.eq_of_mul_eq_mul_left nonzero products)
  | select axis position => exact List.insertIdx_injective axis position same
  | insert axis =>
    obtain ⟨place, h⟩ := Option.ite_none_right_eq_some.1 h
    obtain rfl := Option.some.inj h
    have inserted : (lengths.insertIdx axis 1)[axis]? = some 1 := by
      rw [List.getElem?_insertIdx_self, if_pos place]
    -- The new axis has no position but the first, so that an index is restored without it.
    have restored (k : List Nat) (hk : Shape.Contains (lengths.insertIdx axis 1) k) :
        (k.eraseIdx axis).insertIdx axis 0 = k := by
      have count := hk.1
      rw [List.length_insertIdx_of_le_length place] at count
      have bound : axis < k.length := by omega
      have first : k[axis] = 0 :=
        Nat.lt_one_iff.1 (Shape.lt_of_contains hk (List.getElem?_eq_getElem bound) inserted)
      rw [← first, List.insertIdx_eraseIdx_getElem bound]
    rw [← restored i hi, ← restored j hj]
    exact congrArg (·.insertIdx axis 0) same

end Transform

namespace View

variable {α : Type}

/-- With another axis in its place only one length changes. -/
theorem shape_replaceAxis (v : View α) (axis : Nat) (new : Axis) (shift : Int) :
    (v.replaceAxis axis new shift).shape = v.shape.set axis new.length :=
  List.map_set ..

/-- What a transformation does to the shape of a view, it does without a look at anything else. -/
theorem shape_transform? (v : View α) (transform : Transform) :
    (v.transform? transform).map shape = transform.target? v.shape := by
  have rank : v.shape.length = v.axes.length := List.length_map ..
  have found (axis : Nat) : v.shape[axis]? = v.axes[axis]?.map Axis.length := List.getElem?_map ..
  cases transform with
  | reverseAxes =>
    rw [transform?, Option.map_some, shape, List.map_reverse]
    rfl
  | permute order =>
    rw [Transform.target?, transform?, rank]
    split
    · next perm =>
      rw [Option.map_some, filterMap_getElem?_eq_map ⟨0, 0⟩ perm, shape, List.map_map]
      congr 1
      apply List.map_congr_left
      intro k _
      exact (List.getD_map v.axes ⟨0, 0⟩ Axis.length).symm
    · rfl
  | invert axis =>
    rw [Transform.target?, transform?]
    split
    · next bound =>
      have here := found axis
      rw [List.getElem?_eq_getElem bound] at here
      obtain ⟨old, axisOld, length⟩ := Option.map_eq_some_iff.1 here.symm
      rw [axisOld, Option.bind_eq_bind, Option.bind_some, Option.pure_def, Option.map_some,
        shape_replaceAxis, length, List.set_getElem_self]
    · next beyond =>
      rw [List.getElem?_eq_none (by omega)]
      rfl
  | slice axis start stop step =>
    rw [Transform.target?, transform?, found]
    cases v.axes[axis]? with
    | none => rfl
    | some old =>
      by_cases valid : start ≤ stop ∧ stop ≤ old.length ∧ step ≠ 0
      · simp [guard, valid, shape_replaceAxis]
      · simp [guard, valid]
  | select axis position =>
    rw [Transform.target?, transform?, found]
    cases v.axes[axis]? with
    | none => rfl
    | some old =>
      by_cases valid : position < old.length
      · simp [guard, valid, shape, List.eraseIdx_map]
      · simp [guard, valid]
  | insert axis =>
    rw [Transform.target?, transform?, rank]
    split
    · next place =>
      rw [Option.map_some, shape, List.map_insertIdx]
      rfl
    · rfl

/-- A chain applies to a view exactly if it applies to the shape of the view, and it leaves a view of
the shape that it leaves there. -/
theorem shape_transformAll? (v : View α) (transforms : List Transform) :
    (v.transformAll? transforms).map shape =
      (Transform.reindex? transforms v.shape).map Reindexing.shape := by
  induction transforms generalizing v with
  | nil => rfl
  | cons transform transforms ih =>
    have first := v.shape_transform? transform
    rw [transformAll?_cons, Transform.reindex?]
    cases applied : v.transform? transform with
    | none =>
      rw [applied, Option.map_none] at first
      rw [← first]
      rfl
    | some u =>
      rw [applied, Option.map_some] at first
      rw [← first, Option.bind_some, ih u, Option.bind_eq_bind, Option.bind_some]
      cases Transform.reindex? transforms u.shape <;> rfl

/-- An index of the view after a chain leads to the address to which the index that it comes from
led before, and no two of them come from the same one. -/
theorem source_of_transformAll? {v w : View α} {transforms : List Transform} {r : Reindexing}
    (h : v.transformAll? transforms = some w)
    (valid : Transform.reindex? transforms v.shape = some r) :
    (∀ index, w.shape.Contains index →
      v.shape.Contains (r.source index) ∧ v.address (r.source index) = w.address index) ∧
    ∀ i j, w.shape.Contains i → w.shape.Contains j → r.source i = r.source j → i = j := by
  induction transforms generalizing v r with
  | nil =>
    obtain rfl := Option.some.inj h
    obtain rfl := Option.some.inj valid
    exact ⟨fun index inside => ⟨inside, rfl⟩, fun i j _ _ same => same⟩
  | cons transform transforms ih =>
    rw [transformAll?_cons] at h
    obtain ⟨u, first, rest⟩ := Option.bind_eq_some_iff.1 h
    have target : transform.target? v.shape = some u.shape := by
      rw [← v.shape_transform? transform, first, Option.map_some]
    rw [Transform.reindex?, target, Option.bind_eq_bind, Option.bind_some] at valid
    obtain ⟨others, composed, result⟩ := Option.bind_eq_some_iff.1 valid
    obtain rfl := Option.some.inj result
    obtain ⟨leads, injective⟩ := ih rest composed
    constructor
    · intro index inside
      obtain ⟨between, address⟩ := leads index inside
      obtain ⟨before, address'⟩ := source_of_transform? first between
      exact ⟨before, address'.trans address⟩
    · intro i j hi hj same
      apply injective i j hi hj
      exact Transform.eq_of_source_eq target (leads i hi).1 (leads j hj).1 same

end View

end BytePacking
