import BytePacking.Proofs.Host.Refinement

/-!
# The last write wins

A byte buffer that is shared by many writers is written in a run of operations, each of them packing
elements in place, storing one element, or packing elements for the host into the signed bytes of
the same buffer.  Element types, offsets and lengths vary from one write to the next, windows may
overlap at any offset, and some of the writes may be refused.

`run_last_write_wins` says what such a run leaves: at every position the byte that the last
successful write over this position has put there, or the byte that was there before all of them.
Whether a write succeeds is decided by its own arguments and the length of the buffer, which no
write changes.

The step lemma is `Write.perform_cases`: on buffers of one length a write either splices the bytes
of its elements into each of them, or fails on each of them in the same way and changes nothing.
-/

set_option autoImplicit false

namespace BytePacking

/-- Why a write fails. -/
inductive WriteFailure where
  /-- One of its ranges is refused. -/
  | refused (e : RangeError)
  /-- The host is told of a fault by an exception. -/
  | raised (e : Host.Exception)
  deriving Repr, DecidableEq

/-- What is written to a buffer, and from where on. -/
inductive WriteRequest (t : ElementType) where
  /-- The `len` elements from `arrayStart` on are packed from byte `byteStart` on. -/
  | packInto (values : List (Element t)) (arrayStart byteStart len : Nat)
  /-- One element is stored from byte `start` on. -/
  | store (v : Element t) (start : Nat)
  /-- The host asks for `len` elements from `inStart` on to be packed from byte `outStart` on of the
  same bytes, which it holds with their signs. -/
  | packForHost (inData : Option (List (Element t))) (inStart outStart len : Int32)

/-- One write to a buffer, of elements of a type of its own. -/
structure Write where
  /-- The type of the elements that are written. -/
  elementType : ElementType
  /-- What is written, and how. -/
  request : WriteRequest elementType

namespace Write

/-- The first byte of the window of a write. -/
def start (w : Write) : Nat :=
  match w.request with
  | .packInto _ _ byteStart _ => byteStart
  | .store _ start => start
  | .packForHost _ _ outStart _ => outStart.toInt.toNat

/-- The number of elements that a write is asked for. -/
def count (w : Write) : Nat :=
  match w.request with
  | .packInto _ _ _ len => len
  | .store _ _ => 1
  | .packForHost _ _ _ len => len.toInt.toNat

/-- The elements that a write is asked for, as far as they exist. -/
def elements (w : Write) : List (Element w.elementType) :=
  match w.request with
  | .packInto values arrayStart _ len => (values.drop arrayStart).take len
  | .store v _ => [v]
  | .packForHost inData inStart _ len =>
    ((inData.getD []).drop inStart.toInt.toNat).take len.toInt.toNat

/-- The position lies in the window of a write. -/
def Covers (w : Write) (p : Nat) : Prop := w.start ≤ p ∧ p < w.start + w.count * w.elementType.width

/-- Whether a write covers a position is found by comparing it with both ends of its window. -/
instance (w : Write) (p : Nat) : Decidable (w.Covers p) := inferInstanceAs (Decidable (_ ∧ _))

/-- A write puts byte `b` at position `p`: it is a byte of one of the elements, at its place in the
window. -/
def Puts (w : Write) (p : Nat) (b : UInt8) : Prop :=
  ∃ i j v, i < w.count ∧ j < w.elementType.width ∧ p = w.start + i * w.elementType.width + j ∧
    w.elements[i]? = some v ∧ v.toBytes[j]? = some b

/-- Performs a write on a buffer. -/
def perform (w : Write) (buffer : List UInt8) : Update WriteFailure (List UInt8) :=
  match w.request with
  | .packInto values arrayStart byteStart len =>
    let written := BytePacking.packInto values arrayStart buffer byteStart len
    ⟨written.outcome.mapError .refused, written.dest⟩
  | .store v start =>
    let written := BytePacking.store v buffer start
    ⟨written.outcome.mapError .refused, written.dest⟩
  | .packForHost inData inStart outStart len =>
    let written := Host.packInto inData inStart (some (Host.signed buffer)) outStart len
    ⟨written.outcome.mapError .raised, Host.unsigned (written.dest.getD [])⟩

end Write

/-! ## Runs -/

/-- What a run of writes leaves. -/
structure WriteRun where
  /-- How the writes ended, in order. -/
  outcomes : List (Outcome WriteFailure Unit)
  /-- The buffer behind the last of them. -/
  buffer : List UInt8

/-- Performs writes on a buffer, one after the other.  A failed write does not end the run. -/
def Write.run : List Write → List UInt8 → WriteRun
  | [], buffer => ⟨[], buffer⟩
  | w :: writes, buffer =>
    let first := w.perform buffer
    let others := run writes first.dest
    ⟨first.outcome :: others.outcomes, others.buffer⟩

/-- Of some writes with their outcomes, the last that has succeeded over a position. -/
def Write.lastOver? (p : Nat) (history : List (Write × Outcome WriteFailure Unit)) :
    Option Write :=
  (history.reverse.find? fun entry => entry.2 = .ok () ∧ entry.1.Covers p).map Prod.fst

/-! ## Steps -/

/-- On buffers of one length a write either puts the bytes of its elements in the place of its
window, which lies inside, or it fails for one and the same reason and changes nothing. -/
theorem Write.perform_cases (w : Write) (capacity : Nat) :
    (w.elements.length = w.count ∧ w.start + w.count * w.elementType.width ≤ capacity ∧
      ∀ buffer, buffer.length = capacity →
        w.perform buffer = .done (splice buffer w.start (w.elements.flatMap Element.toBytes))) ∨
    ∃ e, ∀ buffer, buffer.length = capacity → w.perform buffer = ⟨.error e, buffer⟩ := by
  obtain ⟨t, request⟩ := w
  cases request with
  | packInto values arrayStart byteStart len =>
    rcases packInto_cases values arrayStart byteStart len capacity with
      ⟨array, bytes, done⟩ | ⟨e, refused⟩
    · refine .inl ⟨length_take_drop array, bytes, ?_⟩
      intro buffer length
      simp only [perform, done buffer length]
      rfl
    · refine .inr ⟨.refused e, ?_⟩
      intro buffer length
      simp only [perform, refused buffer length, Outcome.mapError_error]
  | store v start =>
    by_cases bytes : Window.Fits capacity start t.width
    · refine .inl ⟨rfl, ?_, ?_⟩
      · show start + 1 * t.width ≤ capacity
        have := bytes.inside
        omega
      · rintro buffer rfl
        simp only [perform, store_eq, if_pos bytes, elements, List.flatMap_singleton]
        rfl
    · refine .inr ⟨.refused (Window.refusal .bytes capacity start t.width), ?_⟩
      rintro buffer rfl
      simp only [perform, store_eq, if_neg bytes, Outcome.mapError_error]
  | packForHost inData inStart outStart len =>
    by_cases faulty : inData = none ∨ inStart.toInt < 0 ∨ len.toInt < 0 ∨ outStart.toInt < 0
    · obtain ⟨e, raises⟩ := Host.packInto_of_fault faulty
      refine .inr ⟨.raised e, ?_⟩
      rintro buffer -
      obtain ⟨outcome, dest⟩ := raises (Host.signed buffer)
      simp only [perform, outcome, dest, Outcome.mapError_error, Option.getD_some,
        Host.unsigned_signed]
    · obtain ⟨some', hin, hlen, hout⟩ : inData ≠ none ∧ 0 ≤ inStart.toInt ∧ 0 ≤ len.toInt ∧
          0 ≤ outStart.toInt := by
        simpa only [not_or, Int.not_lt, ne_eq] using faulty
      obtain ⟨values, rfl⟩ := Option.ne_none_iff_exists'.1 some'
      -- Here the call is the operation on the bytes of the buffer.
      have call := fun buffer => Host.packInto_signed values buffer hin hout hlen
      rcases packInto_cases values inStart.toInt.toNat outStart.toInt.toNat len.toInt.toNat
        capacity with ⟨array, bytes, done⟩ | ⟨e, refused⟩
      · refine .inl ⟨length_take_drop array, bytes, ?_⟩
        intro buffer length
        obtain ⟨outcome, dest⟩ := call buffer
        simp only [perform, outcome, dest, done buffer length, Option.getD_some,
          Host.unsigned_signed]
        rfl
      · refine .inr ⟨.raised (.outOfRange e), ?_⟩
        intro buffer length
        obtain ⟨outcome, dest⟩ := call buffer
        simp only [perform, outcome, dest, refused buffer length, Option.getD_some,
          Host.unsigned_signed, Outcome.mapError_error]

/-- No write adds or removes a byte. -/
theorem Write.length_dest_perform (w : Write) (buffer : List UInt8) :
    (w.perform buffer).dest.length = buffer.length := by
  rcases w.perform_cases buffer.length with ⟨count, inside, done⟩ | ⟨e, failed⟩
  · rw [done buffer rfl, Update.dest_done]
    apply length_splice
    rw [Element.length_flatMap_toBytes, count]
    exact inside
  · rw [failed buffer rfl]

/-- How a write ends depends on the buffer only by its length, and it is never a trap. -/
theorem Write.outcome_perform (w : Write) {buffer other : List UInt8}
    (h : other.length = buffer.length) :
    (w.perform buffer).outcome = (w.perform other).outcome ∧
      (w.perform buffer).outcome ≠ .trap := by
  rcases w.perform_cases buffer.length with ⟨-, -, done⟩ | ⟨e, failed⟩
  · rw [done buffer rfl, done other h]
    exact ⟨rfl, nofun⟩
  · rw [failed buffer rfl, failed other h]
    exact ⟨rfl, nofun⟩

/-- A successful write puts a byte of one of its elements at every position of its window. -/
theorem Write.getElem?_perform_of_covers {w : Write} {buffer : List UInt8} {p : Nat}
    (ok : (w.perform buffer).outcome = .ok ()) (covers : w.Covers p) :
    ∃ b, w.Puts p b ∧ (w.perform buffer).dest[p]? = some b := by
  rcases w.perform_cases buffer.length with ⟨count, inside, done⟩ | ⟨e, failed⟩
  · have bytes := Element.length_flatMap_toBytes w.elements
    rw [count] at bytes
    obtain ⟨low, high⟩ := covers
    obtain ⟨k, rfl⟩ : ∃ k, p = w.start + k := ⟨p - w.start, by omega⟩
    have inWindow : k < w.elements.length * w.elementType.width := by
      rw [count]
      omega
    obtain ⟨i, j, v, b, hi, hj, rfl, element, byte, read⟩ :=
      Element.exists_getElem?_flatMap_toBytes inWindow
    rw [count] at hi
    refine ⟨b, ⟨i, j, v, hi, hj, by omega, element, byte⟩, ?_⟩
    rw [done buffer rfl, Update.dest_done, getElem?_splice_add (by rwa [bytes])
      (by rw [bytes]; omega), read]
  · rw [failed buffer rfl] at ok
    cases ok

/-- A write changes no position outside its window, and none at all if it fails. -/
theorem Write.getElem?_perform_of_not_covers {w : Write} {buffer : List UInt8} {p : Nat}
    (h : ¬ ((w.perform buffer).outcome = .ok () ∧ w.Covers p)) :
    (w.perform buffer).dest[p]? = buffer[p]? := by
  rcases w.perform_cases buffer.length with ⟨count, inside, done⟩ | ⟨e, failed⟩
  · have bytes := Element.length_flatMap_toBytes w.elements
    rw [count] at bytes
    rw [done buffer rfl, Update.outcome_done] at h
    rw [done buffer rfl, Update.dest_done]
    apply getElem?_splice_of_outside (by rwa [bytes])
    by_cases low : p < w.start
    · exact .inl low
    · right
      rw [bytes]
      apply Nat.le_of_not_lt
      intro high
      exact h ⟨rfl, Nat.le_of_not_lt low, high⟩
  · rw [failed buffer rfl]

/-! ## Runs of any length -/

/-- The first write of a history is the last one over a position only if none of the others is. -/
theorem Write.lastOver?_cons (p : Nat) (w : Write) (o : Outcome WriteFailure Unit)
    (history : List (Write × Outcome WriteFailure Unit)) :
    lastOver? p ((w, o) :: history) =
      (lastOver? p history).or (if o = .ok () ∧ w.Covers p then some w else none) := by
  unfold lastOver?
  rw [List.reverse_cons, List.find?_append, Option.map_or]
  congr 1
  by_cases h : o = .ok () ∧ w.Covers p
  · rw [if_pos h, List.find?_cons_of_pos (by simpa using h), Option.map_some]
  · rw [if_neg h, List.find?_cons_of_neg (by simpa using h), List.find?_nil, Option.map_none]

/-- No sequence of writes changes the length of the buffer. -/
theorem Write.length_buffer_run (writes : List Write) (buffer : List UInt8) :
    (run writes buffer).buffer.length = buffer.length := by
  induction writes generalizing buffer with
  | nil => rfl
  | cons w writes ih => exact (ih _).trans (w.length_dest_perform buffer)

/-- No write of a run is affected by those before it in how it ends, and none of them traps. -/
theorem Write.outcomes_run (writes : List Write) {buffer other : List UInt8}
    (h : other.length = buffer.length) :
    (run writes buffer).outcomes = writes.map (fun w => (w.perform other).outcome) ∧
      .trap ∉ (run writes buffer).outcomes := by
  induction writes generalizing buffer with
  | nil => exact ⟨rfl, List.not_mem_nil⟩
  | cons w writes ih =>
    obtain ⟨same, answers⟩ := w.outcome_perform h
    obtain ⟨others, answerOthers⟩ := ih (h.trans (w.length_dest_perform buffer).symm)
    constructor
    · rw [run, others, same, List.map_cons]
    · intro mem
      rcases List.mem_cons.1 mem with trap | mem
      · exact answers trap.symm
      · exact answerOthers mem

/-- The step lemmas, carried along a run: a later write over a position hides the earlier ones. -/
theorem Write.getElem?_run (writes : List Write) (buffer : List UInt8) (p : Nat) :
    match lastOver? p (writes.zip (run writes buffer).outcomes) with
    | some w => ∃ b, w.Puts p b ∧ (run writes buffer).buffer[p]? = some b
    | none => (run writes buffer).buffer[p]? = buffer[p]? := by
  induction writes generalizing buffer with
  | nil => rfl
  | cons w writes ih =>
    have others := ih (w.perform buffer).dest
    rw [run, List.zip_cons_cons, lastOver?_cons]
    cases last : lastOver? p (writes.zip (run writes (w.perform buffer).dest).outcomes) with
    | some later =>
      rw [last] at others
      exact others
    | none =>
      rw [last] at others
      rw [Option.none_or]
      by_cases covers : (w.perform buffer).outcome = .ok () ∧ w.Covers p
      · obtain ⟨b, puts, written⟩ := getElem?_perform_of_covers covers.1 covers.2
        rw [if_pos covers]
        exact ⟨b, puts, others.trans written⟩
      · rw [if_neg covers]
        exact others.trans (getElem?_perform_of_not_covers covers)

/-- Where the writes of a run all succeed, and those that put a byte at a position put the one that
`target` has there, the run leaves that byte if one of them reaches the position, in whatever order
they come; it leaves it as well if it was there before. -/
theorem Write.getElem?_run_of_agree {writes : List Write} {buffer target : List UInt8} {p : Nat}
    (succeed : ∀ w ∈ writes, (w.perform buffer).outcome = .ok ())
    (agree : ∀ w ∈ writes, ∀ b, w.Puts p b → target[p]? = some b)
    (reached : buffer[p]? = target[p]? ∨ ∃ w ∈ writes, w.Covers p) :
    (run writes buffer).buffer[p]? = target[p]? := by
  induction writes generalizing buffer with
  | nil => simpa [run] using reached
  | cons w writes ih =>
    have ok := succeed w List.mem_cons_self
    apply ih
    · intro later h
      rw [(later.outcome_perform (w.length_dest_perform buffer).symm).1]
      exact succeed later (List.mem_cons_of_mem w h)
    · intro later h
      exact agree later (List.mem_cons_of_mem w h)
    -- Behind its window `w` leaves what it found, and in its window what `target` has.
    · by_cases covers : w.Covers p
      · obtain ⟨b, puts, written⟩ := getElem?_perform_of_covers ok covers
        left
        rw [written, agree w List.mem_cons_self b puts]
      · rw [getElem?_perform_of_not_covers fun h => covers h.2]
        rcases reached with before | ⟨other, member, reaches⟩
        · exact .inl before
        · rcases List.mem_cons.1 member with rfl | member
          · exact absurd reaches covers
          · exact .inr ⟨other, member, reaches⟩

/-- What a run of writes leaves in a buffer.  The buffer keeps its length.  At every position it
holds the byte that the last write has put there of those that have succeeded over this position,
and where there is none, what it held in the beginning.  How each write ends, with success or an
error, is what it would have been on any other buffer of this length. -/
theorem Write.run_last_write_wins (writes : List Write) (buffer : List UInt8) :
    (run writes buffer).buffer.length = buffer.length ∧
    (∀ p, match lastOver? p (writes.zip (run writes buffer).outcomes) with
      | some w => ∃ b, w.Puts p b ∧ (run writes buffer).buffer[p]? = some b
      | none => (run writes buffer).buffer[p]? = buffer[p]?) ∧
    .trap ∉ (run writes buffer).outcomes ∧
    ∀ other : List UInt8, other.length = buffer.length →
      (run writes buffer).outcomes = writes.map fun w => (w.perform other).outcome := by
  refine ⟨length_buffer_run writes buffer, getElem?_run writes buffer,
    (outcomes_run writes rfl).2, ?_⟩
  intro other length
  exact (outcomes_run writes length).1

/-- Writes of three widths overlap in a buffer of eight bytes, and one of them does not fit. -/
theorem Write.run_of_overlapping_writes :
    ([0, 0, 0, 0, 0, 0, 0, 0] : List UInt8).length = 8 ∧
    (run [⟨.int32, .packInto [⟨0x01020304⟩] 0 1 1⟩, ⟨.uint16, .packInto [⟨0xFFFF⟩] 0 7 1⟩,
      ⟨.int16, .packForHost (some [⟨5⟩, ⟨0xFF80⟩]) 1 3 1⟩, ⟨.uint8, .store ⟨7⟩ 4⟩]
      [9, 9, 9, 9, 9, 9, 9, 9]).buffer = [9, 1, 2, 0xFF, 7, 9, 9, 9] ∧
    (run [⟨.int32, .packInto [⟨0x01020304⟩] 0 1 1⟩, ⟨.uint16, .packInto [⟨0xFFFF⟩] 0 7 1⟩,
      ⟨.int16, .packForHost (some [⟨5⟩, ⟨0xFF80⟩]) 1 3 1⟩, ⟨.uint8, .store ⟨7⟩ 4⟩]
      [9, 9, 9, 9, 9, 9, 9, 9]).outcomes =
        [⟨.int32, .packInto [⟨0x01020304⟩] 0 1 1⟩, ⟨.uint16, .packInto [⟨0xFFFF⟩] 0 7 1⟩,
          ⟨.int16, .packForHost (some [⟨5⟩, ⟨0xFF80⟩]) 1 3 1⟩, ⟨.uint8, .store ⟨7⟩ 4⟩].map
            fun w : Write => (w.perform [0, 0, 0, 0, 0, 0, 0, 0]).outcome :=
  ⟨rfl, by decide, (run_last_write_wins _ _).2.2.2 _ rfl⟩

end BytePacking
