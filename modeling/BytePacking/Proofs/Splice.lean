/-!
# A run of items in the place of another

`splice xs start items` is the list `xs` with `items` in the place of as many of its own items, from
position `start` on.  Every change that an operation makes to its destination has this form.

Where the run lies inside the list, the length stays (`length_splice`), the places of the run hold
its items (`getElem?_splice_add`, `drop_splice`), and every other place holds what it held
(`getElem?_splice_of_outside`).
-/

set_option autoImplicit false

namespace BytePacking

variable {α : Type}

/-- The list with `items` in the place of as many of its items from `start` on. -/
def splice (xs : List α) (start : Nat) (items : List α) : List α :=
  xs.take start ++ items ++ xs.drop (start + items.length)

/-- A range inside a list has as many items as it was asked for. -/
theorem length_take_drop {xs : List α} {start count : Nat}
    (h : start + count ≤ xs.length) : ((xs.drop start).take count).length = count := by
  rw [List.length_take, List.length_drop]
  omega

/-- An item of a range is the item of the list that is as far behind its start. -/
theorem getElem?_take_drop {xs : List α} {start count i : Nat} (h : i < count) :
    ((xs.drop start).take count)[i]? = xs[start + i]? := by
  rw [List.getElem?_take_of_lt h, List.getElem?_drop]

/-- Items that are put over others change no length. -/
theorem length_splice {xs items : List α} {start : Nat} (h : start + items.length ≤ xs.length) :
    (splice xs start items).length = xs.length := by
  simp only [splice, List.length_append, List.length_take, List.length_drop]
  omega

/-- Inside of the range the new items are found. -/
theorem getElem?_splice_add {xs items : List α} {start i : Nat}
    (h : start + items.length ≤ xs.length) (hi : i < items.length) :
    (splice xs start items)[start + i]? = items[i]? := by
  have before : (xs.take start).length = start := List.length_take_of_le (by omega)
  rw [splice, List.append_assoc, List.getElem?_append_right (by omega), before,
    Nat.add_sub_cancel_left, List.getElem?_append_left hi]

/-- Outside of the range the old items are found. -/
theorem getElem?_splice_of_outside {xs items : List α} {start p : Nat}
    (h : start + items.length ≤ xs.length) (outside : p < start ∨ start + items.length ≤ p) :
    (splice xs start items)[p]? = xs[p]? := by
  have before : (xs.take start).length = start := List.length_take_of_le (by omega)
  rcases outside with low | high
  · rw [splice, List.append_assoc, List.getElem?_append_left (by omega),
      List.getElem?_take_of_lt low]
  · have front : (xs.take start ++ items).length = start + items.length := by
      rw [List.length_append, before]
    rw [splice, List.getElem?_append_right (by omega), front, List.getElem?_drop]
    congr 1
    omega

/-- A run that is taken from another list holds the items that it was taken from. -/
theorem exists_getElem?_splice_take_drop {xs ys : List α} {start target count i : Nat}
    (source : start + count ≤ ys.length) (room : target + count ≤ xs.length) (hi : i < count) :
    ∃ y, ys[start + i]? = some y ∧
      (splice xs target ((ys.drop start).take count))[target + i]? = some y := by
  have size := length_take_drop source
  have inside : start + i < ys.length := by omega
  refine ⟨ys[start + i], List.getElem?_eq_getElem inside, ?_⟩
  rw [getElem?_splice_add (by omega) (by omega), getElem?_take_drop hi,
    List.getElem?_eq_getElem inside]

/-- From its first place on the list holds the run, and behind it what it held. -/
theorem drop_splice {xs items : List α} {start : Nat} (h : start ≤ xs.length) :
    (splice xs start items).drop start = items ++ xs.drop (start + items.length) := by
  have before : (xs.take start).length = start := List.length_take_of_le (by omega)
  rw [splice, List.append_assoc, List.drop_append_of_le_length (by omega),
    List.drop_eq_nil_of_le (by omega), List.nil_append]

/-- A run in two parts is one part and then the other behind it. -/
theorem splice_append {xs items others : List α} {start : Nat}
    (h : start + items.length ≤ xs.length) :
    splice xs start (items ++ others) =
      splice (splice xs start items) (start + items.length) others := by
  have front : (xs.take start ++ items).length = start + items.length := by
    rw [List.length_append, List.length_take_of_le (by omega)]
  have behind : (splice xs start items).drop (start + items.length + others.length) =
      xs.drop (start + items.length + others.length) := by
    rw [← List.drop_drop, splice, List.drop_left' front, List.drop_drop]
  rw [splice, splice, behind, splice, List.take_left' front, List.length_append]
  simp only [List.append_assoc, Nat.add_assoc]

/-- A run that a list holds already changes nothing. -/
theorem splice_take_drop {xs : List α} {start count : Nat} (h : start + count ≤ xs.length) :
    splice xs start ((xs.drop start).take count) = xs := by
  rw [splice, length_take_drop h, List.append_assoc, ← List.drop_drop, List.take_append_drop,
    List.take_append_drop]

/-- A run at the end of a list of copies of one item. -/
theorem splice_replicate {items : List α} {start total : Nat} (fill : α)
    (h : start + items.length = total) :
    splice (List.replicate total fill) start items = List.replicate start fill ++ items := by
  rw [splice, List.take_replicate, List.drop_eq_nil_of_le (by rw [List.length_replicate]; omega),
    List.append_nil, Nat.min_eq_left (by omega)]

end BytePacking
