import BytePacking.Blocks
import BytePacking.Element

/-!
# Lists of elements and their bytes

The bytes of a list of elements are those of its elements, one behind the other; cut into blocks,
they give the elements back (`map_ofBlock_cut_flatMap`).  Conversely the elements of as many blocks
of bytes as one likes have exactly these bytes (`flatMap_toBytes_map_ofBlock`).
-/

set_option autoImplicit false

namespace BytePacking.Element

variable {t : ElementType}

/-- The bytes of a list are as many as its elements times the width. -/
theorem length_flatMap_toBytes (vs : List (Element t)) :
    (vs.flatMap toBytes).length = vs.length * t.width := by
  induction vs with
  | nil => simp
  | cons v vs ih => rw [List.flatMap_cons, List.length_append, length_toBytes, ih,
      List.length_cons, Nat.succ_mul, Nat.add_comm]

/-- There is one element for each block. -/
theorem length_map_ofBlock_cut (count : Nat) (bytes : List UInt8) :
    ((Blocks.cut t.width count bytes).map (ofBlock t)).length = count := by
  rw [List.length_map, Blocks.length_cut]

/-- Behind the bytes of the first elements of a list are those of the others. -/
theorem drop_flatMap_toBytes (vs : List (Element t)) (count : Nat) :
    (vs.flatMap toBytes).drop (count * t.width) = (vs.drop count).flatMap toBytes := by
  induction vs generalizing count with
  | nil => simp
  | cons v vs ih =>
    cases count with
    | zero => simp
    | succ count =>
      have others : (v.toBytes ++ vs.flatMap toBytes).drop t.width = vs.flatMap toBytes :=
        List.drop_left' v.length_toBytes
      rw [List.flatMap_cons, Nat.succ_mul, Nat.add_comm, ← List.drop_drop, others, ih,
        List.drop_succ_cons]

/-- The bytes of an element of a list are found behind those of the elements before it. -/
theorem take_drop_flatMap_toBytes {vs : List (Element t)} {i : Nat} {v : Element t}
    (h : vs[i]? = some v) : ((vs.flatMap toBytes).drop (i * t.width)).take t.width = v.toBytes := by
  obtain ⟨bound, rfl⟩ := List.getElem?_eq_some_iff.1 h
  rw [drop_flatMap_toBytes, List.drop_eq_getElem_cons bound, List.flatMap_cons]
  exact List.take_left' vs[i].length_toBytes

/-- The elements of a list are recovered from its bytes. -/
theorem map_ofBlock_cut_flatMap (vs : List (Element t)) (rest : List UInt8) :
    (Blocks.cut t.width vs.length (vs.flatMap toBytes ++ rest)).map (ofBlock t) = vs := by
  induction vs with
  | nil => rfl
  | cons v vs ih =>
    have first : (v.toBytes ++ (vs.flatMap toBytes ++ rest)).take t.width = v.toBytes :=
      List.take_left' v.length_toBytes
    have others : (v.toBytes ++ (vs.flatMap toBytes ++ rest)).drop t.width =
        vs.flatMap toBytes ++ rest :=
      List.drop_left' v.length_toBytes
    rw [List.flatMap_cons, List.append_assoc, List.length_cons, Blocks.cut, first, others,
      List.map_cons, ih, ofBlock_toBytes]

/-- The bytes of a buffer are recovered from the elements that were read from them. -/
theorem flatMap_toBytes_map_ofBlock {count : Nat} {bytes : List UInt8}
    (enough : count * t.width ≤ bytes.length) :
    ((Blocks.cut t.width count bytes).map (ofBlock t)).flatMap toBytes =
      bytes.take (count * t.width) := by
  rw [← Blocks.flatten_cut, List.flatMap_map, List.flatMap_def]
  congr 1
  have same : ∀ block ∈ Blocks.cut t.width count bytes, (ofBlock t block).toBytes = block := by
    intro block h
    exact toBytes_ofBlock (Blocks.length_of_mem_cut enough h)
  exact (List.map_congr_left same).trans (List.map_id _)

/-- Each element that is read from a buffer has the number of its own block for a pattern. -/
theorem getElem?_map_ofBlock_cut {count i : Nat} {bytes : List UInt8}
    (enough : count * t.width ≤ bytes.length) (h : i < count) :
    ∃ v, ((Blocks.cut t.width count bytes).map (ofBlock t))[i]? = some v ∧
      v.bits.toNat = Positional.value ((bytes.drop (i * t.width)).take t.width) := by
  have block : (Blocks.cut t.width count bytes)[i]? =
      some ((bytes.drop (i * t.width)).take t.width) :=
    Blocks.getElem?_cut bytes h
  have width := Blocks.length_of_mem_cut enough (List.mem_of_getElem? block)
  refine ⟨ofBlock t ((bytes.drop (i * t.width)).take t.width), ?_, toNat_bits_ofBlock width⟩
  rw [List.getElem?_map, block, Option.map_some]

/-- Byte `j` of element `i` is the byte of the list at `i` widths and `j`. -/
theorem getElem?_flatMap_toBytes (vs : List (Element t)) (i : Nat) {j : Nat} (h : j < t.width) :
    (vs.flatMap toBytes)[i * t.width + j]? = vs[i]?.bind fun v => v.toBytes[j]? :=
  Blocks.getElem?_flatMap (fun v _ => v.length_toBytes) i h

/-- Every byte of a list of elements is a byte of one of them. -/
theorem exists_getElem?_flatMap_toBytes {vs : List (Element t)} {k : Nat}
    (h : k < vs.length * t.width) :
    ∃ i j v b, i < vs.length ∧ j < t.width ∧ k = i * t.width + j ∧ vs[i]? = some v ∧
      v.toBytes[j]? = some b ∧ (vs.flatMap toBytes)[k]? = some b := by
  have element : k / t.width < vs.length := (Nat.div_lt_iff_lt_mul t.width_pos).2 h
  have byte : k % t.width < t.width := Nat.mod_lt k t.width_pos
  have place : k / t.width * t.width + k % t.width = k := Nat.div_add_mod' k t.width
  have inside : k % t.width < vs[k / t.width].toBytes.length := by
    rwa [length_toBytes]
  have read := getElem?_flatMap_toBytes vs (k / t.width) byte
  rw [place, List.getElem?_eq_getElem element, Option.bind_some,
    List.getElem?_eq_getElem inside] at read
  exact ⟨_, _, _, _, element, byte, place.symm, List.getElem?_eq_getElem element,
    List.getElem?_eq_getElem inside, read⟩

end BytePacking.Element
