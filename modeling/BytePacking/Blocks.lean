import BytePacking.Update

/-!
# Lists as rows of blocks

A list is cut from its front into blocks of one width, as many as fit, and the items behind the
last whole block are a rest that no block holds.  Nothing is lost (`flatten_whole_append_rest`),
and every block has the width (`length_of_mem_whole`).  Put together again, rows of one width have
each item at its place in its row, so many widths behind the front (`getElem?_flatMap`).

`Blocks.overwrite` overwrites the blocks of a list one after the other and leaves the rest alone.
Where there are blocks enough for all sources, `overwrite_eq_done` says what the list then holds.
-/

set_option autoImplicit false

namespace BytePacking.Blocks

section Cut

variable {α : Type}

/-- The first `count` blocks of `width` items. -/
def cut (width : Nat) : (count : Nat) → List α → List (List α)
  | 0, _ => []
  | count + 1, xs => xs.take width :: cut width count (xs.drop width)

/-- All whole blocks of `width` items. -/
def whole (width : Nat) (xs : List α) : List (List α) := cut width (xs.length / width) xs

/-- The items behind the last whole block. -/
def rest (width : Nat) (xs : List α) : List α := xs.drop (xs.length / width * width)

/-- As many blocks are cut off as were asked for. -/
@[simp] theorem length_cut (width count : Nat) (xs : List α) :
    (cut width count xs).length = count := by
  induction count generalizing xs with
  | zero => rfl
  | succ count ih => simp [cut, ih]

/-- A list has as many whole blocks as its length has room for. -/
@[simp] theorem length_whole (width : Nat) (xs : List α) :
    (whole width xs).length = xs.length / width :=
  length_cut ..

/-- The blocks of a cut are the front of the list. -/
theorem flatten_cut (width count : Nat) (xs : List α) :
    (cut width count xs).flatten = xs.take (count * width) := by
  induction count generalizing xs with
  | zero => simp [cut]
  | succ count ih =>
    rw [cut, List.flatten_cons, ih, Nat.succ_mul, Nat.add_comm, List.take_add]

/-- Cutting loses nothing. -/
@[simp] theorem flatten_whole_append_rest (width : Nat) (xs : List α) :
    (whole width xs).flatten ++ rest width xs = xs := by
  rw [whole, flatten_cut, rest, List.take_append_drop]

/-- Each block of a cut is a run of neighbours. -/
theorem getElem?_cut {width count i : Nat} (xs : List α) (h : i < count) :
    (cut width count xs)[i]? = some ((xs.drop (i * width)).take width) := by
  induction count generalizing i xs with
  | zero => omega
  | succ count ih =>
    cases i with
    | zero => simp [cut]
    | succ i =>
      rw [cut, List.getElem?_cons_succ, ih _ (by omega), List.drop_drop, Nat.succ_mul,
        Nat.add_comm]

/-- Cutting less gives the first of the blocks. -/
theorem take_cut {width n count : Nat} (xs : List α) (h : n ≤ count) :
    (cut width count xs).take n = cut width n xs := by
  induction n generalizing count xs with
  | zero => simp [cut]
  | succ n ih =>
    obtain ⟨count, rfl⟩ : ∃ k, count = k + 1 := ⟨count - 1, by omega⟩
    simp [cut, ih _ (show n ≤ count by omega)]

/-- The blocks of a cut are those of its front and then those behind it. -/
theorem cut_add (width m n : Nat) (xs : List α) :
    cut width (m + n) xs = cut width m xs ++ cut width n (xs.drop (m * width)) := by
  induction m generalizing xs with
  | zero => simp [cut]
  | succ m ih => simp [cut, Nat.succ_add, Nat.succ_mul, ih, Nat.add_comm width]

/-- Blocks depend on no items behind them. -/
theorem cut_take {width count : Nat} (xs : List α) :
    cut width count (xs.take (count * width)) = cut width count xs := by
  induction count generalizing xs with
  | zero => rfl
  | succ count ih =>
    have front : (xs.take ((count + 1) * width)).take width = xs.take width := by
      rw [List.take_take, Nat.succ_mul, Nat.min_eq_left (by omega)]
    have back : (xs.take ((count + 1) * width)).drop width =
        (xs.drop width).take (count * width) := by
      rw [List.drop_take, Nat.succ_mul, Nat.add_sub_cancel]
    rw [cut, cut, front, back, ih]

/-- A block that is cut off has the full width if there were enough items for it. -/
theorem length_of_mem_cut {width count : Nat} {xs block : List α}
    (enough : count * width ≤ xs.length) (h : block ∈ cut width count xs) :
    block.length = width := by
  induction count generalizing xs with
  | zero => simp [cut] at h
  | succ count ih =>
    have room : width + count * width ≤ xs.length := by
      rw [Nat.succ_mul] at enough
      omega
    rcases List.mem_cons.1 h with rfl | h
    · rw [List.length_take]
      omega
    · exact ih (by rw [List.length_drop]; omega) h

/-- Every whole block has the width. -/
theorem length_of_mem_whole {width : Nat} {xs block : List α} (h : block ∈ whole width xs) :
    block.length = width :=
  length_of_mem_cut (Nat.div_mul_le_self _ _) h

end Cut

section Rows

variable {α β : Type}

/-- In a list of rows of one width, the place of an item is found from its row and its place
there. -/
theorem getElem?_flatMap {row : α → List β} {width : Nat} {xs : List α}
    (h : ∀ x ∈ xs, (row x).length = width) (i : Nat) {j : Nat} (hj : j < width) :
    (xs.flatMap row)[i * width + j]? = xs[i]?.bind fun x => (row x)[j]? := by
  induction xs generalizing i with
  | nil => simp
  | cons x xs ih =>
    have first : (row x).length = width := h x (by simp)
    rw [List.flatMap_cons]
    cases i with
    | zero =>
      rw [List.getElem?_append_left (by omega)]
      simp
    | succ i =>
      have behind : (i + 1) * width + j - (row x).length = i * width + j := by
        rw [first, Nat.succ_mul]
        omega
      have others := ih (fun y hy => h y (by simp [hy])) i
      rw [List.getElem?_append_right (by rw [first, Nat.succ_mul]; omega), behind, others,
        List.getElem?_cons_succ]

end Rows

section Overwrite

variable {ε σ α : Type}

/-- Overwrites the blocks of `xs` one after the other, each from the source at the same position,
until either are used up. -/
def overwrite (width : Nat) (write : σ → List α → Update ε (List α)) (sources : List σ)
    (xs : List α) : Update ε (List α) :=
  (overwriteEach write sources (whole width xs)).map fun blocks =>
    blocks.flatten ++ rest width xs

/-- Where every source can be written over a block and there are blocks enough, the list holds what
was written, one block behind the other, and then what it held before. -/
theorem overwrite_eq_done {width : Nat} (pos : 0 < width)
    {write : σ → List α → Update ε (List α)} {new : σ → List α} {sources : List σ} {xs : List α}
    (writes : ∀ source block, block.length = width → write source block = .done (new source))
    (enough : sources.length * width ≤ xs.length) :
    overwrite width write sources xs =
      .done (sources.flatMap new ++ xs.drop (sources.length * width)) := by
  have count : sources.length ≤ xs.length / width := (Nat.le_div_iff_mul_le pos).2 enough
  have written := overwriteEach_eq_done write (fun source _ => new source) sources (whole width xs)
    fun p hp => writes p.1 p.2 (length_of_mem_whole (List.of_mem_zip hp).2)
  have first : List.zipWith (fun source _ => new source) sources (whole width xs) =
      sources.map new := by
    apply List.ext_getElem
    · simp [count]
    · simp
  have others : ((whole width xs).drop sources.length).flatten ++ rest width xs =
      xs.drop (sources.length * width) := by
    have all := flatten_whole_append_rest width xs
    rw [← List.take_append_drop sources.length (whole width xs), List.flatten_append,
      List.append_assoc, whole, take_cut xs count, flatten_cut] at all
    exact List.append_cancel_left (all.trans (List.take_append_drop _ _).symm)
  rw [overwrite, written, first]
  simp only [Update.map, Update.done, List.flatten_append, List.append_assoc, others,
    List.flatMap_def]

end Overwrite

end BytePacking.Blocks
