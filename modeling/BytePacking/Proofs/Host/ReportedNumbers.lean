import BytePacking.Proofs.Host.FirstFault

/-!
# The numbers that the host is told are exact

An exception for a range names numbers: the start or the length that is negative, or the end of the
range and the capacity of its region.  The host passes numbers of 32 bits, and its elements are at
most eight bytes wide, so that no sum or product of them comes near a machine word.  Hence the host
is never told that an end is no word, and every number that it is told is the one that it gave, or
the exact result of what it gave (`reported_numbers_are_exact`).

What each cause may say is the predicate `ExactCause`.  It follows from the order of the faults: a
call that is told of the end of a range has passed numbers that are not negative.
-/

set_option autoImplicit false

namespace BytePacking.Host

open Fault

variable {σ δ γ : Type} {t : ElementType}

/-! ## Exact causes -/

/-- The numbers of a cause are exact for the range of `len` elements from `start` on in the array
`data`, whose positions are those of `region`. -/
def ExactCause (t : ElementType) (region : Region) (data : Option (List σ)) (start len : Int32) :
    Cause → Prop
  | .negativeStart value => value = start.toInt ∧ -2147483648 ≤ value ∧ value ≤ -1
  | .negativeLength value => value = len.toInt ∧ -2147483648 ≤ value ∧ value ≤ -1
  | .overflow => False
  | .pastEnd stop capacity =>
    ∃ (items : List σ) (first count : Nat), data = some items ∧ capacity = items.length ∧
      start.toInt = first ∧ len.toInt = count ∧ stop = first + region.positions t count ∧
      capacity < stop ∧ stop ≤ 9 * 2147483647

section Exact

variable {region : Region} {data : Option (List σ)} {start len : Int32}

/-- The start that is reported as negative is the one of the call. -/
theorem exactCause_negativeStart (h : start.toInt < 0) :
    ExactCause t region data start len (.negativeStart start.toInt) := by
  have least := start.le_toInt
  exact ⟨rfl, by omega, by omega⟩

/-- The length that is reported as negative is the one of the call. -/
theorem exactCause_negativeLength (h : len.toInt < 0) :
    ExactCause t region data start len (.negativeLength len.toInt) := by
  have least := len.le_toInt
  exact ⟨rfl, by omega, by omega⟩

/-- Eight positions for each element are always enough. -/
theorem positions_le (t : ElementType) (region : Region) (count : Nat) :
    region.positions t count ≤ count * 8 := by
  cases region with
  | bytes => exact Nat.mul_le_mul_left count t.width_le_eight
  | elements =>
    simp only [Region.positions]
    omega

/-- The end that is reported is where the range ends, and the capacity is that of the array. -/
theorem exactCause_pastEnd {items : List σ} (hstart : ¬ start.toInt < 0) (hlen : ¬ len.toInt < 0)
    (h : items.length < start.toInt.toNat + region.positions t len.toInt.toNat) :
    ExactCause t region (some items) start len
      (.pastEnd (start.toInt.toNat + region.positions t len.toInt.toNat) items.length) := by
  have greatest := start.toInt_lt
  have longest := len.toInt_lt
  have few := positions_le t region len.toInt.toNat
  exact ⟨items, start.toInt.toNat, len.toInt.toNat, rfl, rfl, by omega, by omega, rfl, h, by omega⟩

end Exact

/-! ## What the first fault says -/

/-- An exception is that of the first fault, or the first fault is absent and the others decide. -/
theorem Fault.FirstDecides.of_error {fault : Fault} {faults : List Fault} {x : Exception}
    (h : FirstDecides (fault :: faults) (.error x : Outcome Exception γ)) :
    (fault.present ∧ x = fault.exception) ∨
      (¬ fault.present ∧ FirstDecides faults (.error x : Outcome Exception γ)) := by
  by_cases present : fault.present
  · exact .inl ⟨present, Outcome.error.inj (h.1 present)⟩
  · exact .inr ⟨present, h.2 present⟩

section Faults

variable {source target : Region}

/-- A call that makes an array is told exact numbers about the range that it reads. -/
theorem exactCause_of_reading {data : Option (List σ)} {start len : Int32} {e : RangeError}
    (decides : FirstDecides (ofReading t source data start len)
      (.error (.outOfRange e) : Outcome Exception γ)) :
    e.region = source ∧ ExactCause t source data start len e.cause := by
  obtain ⟨-, impossible⟩ | ⟨given, decides⟩ := decides.of_error
  · cases impossible
  obtain ⟨items, rfl⟩ := Option.ne_none_iff_exists'.1 given
  obtain ⟨negative, ⟨⟩⟩ | ⟨start', decides⟩ := decides.of_error
  · exact ⟨rfl, exactCause_negativeStart negative⟩
  obtain ⟨negative, ⟨⟩⟩ | ⟨len', decides⟩ := decides.of_error
  · exact ⟨rfl, exactCause_negativeLength negative⟩
  obtain ⟨beyond, ⟨⟩⟩ | ⟨-, ⟨_, impossible⟩⟩ := decides.of_error
  · exact ⟨rfl, exactCause_pastEnd start' len' beyond⟩
  · cases impossible

/-- A call that copies is told exact numbers about one of its two ranges. -/
theorem exactCause_of_copying {inData : Option (List σ)} {outData : Option (List δ)}
    {inStart outStart len : Int32} {e : RangeError}
    (decides : FirstDecides (ofCopying t source target inData inStart outData outStart len)
      (.error (.outOfRange e) : Outcome Exception γ)) :
    (e.region = source ∧ ExactCause t source inData inStart len e.cause) ∨
      (e.region = target ∧ ExactCause t target outData outStart len e.cause) := by
  obtain ⟨-, impossible⟩ | ⟨given, decides⟩ := decides.of_error
  · cases impossible
  obtain ⟨inItems, rfl⟩ := Option.ne_none_iff_exists'.1 given
  obtain ⟨-, impossible⟩ | ⟨given, decides⟩ := decides.of_error
  · cases impossible
  obtain ⟨outItems, rfl⟩ := Option.ne_none_iff_exists'.1 given
  obtain ⟨negative, ⟨⟩⟩ | ⟨inStart', decides⟩ := decides.of_error
  · exact .inl ⟨rfl, exactCause_negativeStart negative⟩
  obtain ⟨negative, ⟨⟩⟩ | ⟨len', decides⟩ := decides.of_error
  · exact .inl ⟨rfl, exactCause_negativeLength negative⟩
  obtain ⟨negative, ⟨⟩⟩ | ⟨outStart', decides⟩ := decides.of_error
  · exact .inr ⟨rfl, exactCause_negativeStart negative⟩
  obtain ⟨beyond, ⟨⟩⟩ | ⟨-, decides⟩ := decides.of_error
  · exact .inl ⟨rfl, exactCause_pastEnd inStart' len' beyond⟩
  obtain ⟨beyond, ⟨⟩⟩ | ⟨-, ⟨_, impossible⟩⟩ := decides.of_error
  · exact .inr ⟨rfl, exactCause_pastEnd outStart' len' beyond⟩
  · cases impossible

end Faults

/-! ## Calls -/

section Calls

variable {inStart outStart start len : Int32} {e : RangeError}

/-- A call that writes in place reports exact numbers, of the side that it blames. -/
theorem exactCause_of_packInto {inData : Option (List (Element t))} {outData : Option (List Int8)}
    (raised : (packInto inData inStart outData outStart len).outcome = .error (.outOfRange e)) :
    (e.region = .elements ∧ ExactCause t .elements inData inStart len e.cause) ∨
      (e.region = .bytes ∧ ExactCause t .bytes outData outStart len e.cause) := by
  have decides : FirstDecides (ofCopying t .elements .bytes inData inStart outData outStart len)
      (packInto inData inStart outData outStart len).outcome := by
    apply firstDecides_copying
    intro inItems outItems
    rw [← length_unsigned outItems]
    exact firstDecides_packInto inItems (unsigned outItems) inStart outStart len
  rw [raised] at decides
  exact exactCause_of_copying decides

/-- A call that reads in place reports exact numbers, of the side that it blames. -/
theorem exactCause_of_unpackInto {inData : Option (List Int8)}
    {outData : Option (List (Element t))}
    (raised : (unpackInto inData inStart outData outStart len).outcome = .error (.outOfRange e)) :
    (e.region = .bytes ∧ ExactCause t .bytes inData inStart len e.cause) ∨
      (e.region = .elements ∧ ExactCause t .elements outData outStart len e.cause) := by
  have decides : FirstDecides (ofCopying t .bytes .elements inData inStart outData outStart len)
      (unpackInto inData inStart outData outStart len).outcome := by
    apply firstDecides_copying
    intro inItems outItems
    rw [← length_unsigned inItems]
    exact firstDecides_unpackInto (unsigned inItems) outItems inStart outStart len
  rw [raised] at decides
  exact exactCause_of_copying decides

/-- A call that makes an array of bytes blames the elements, with exact numbers. -/
theorem exactCause_of_pack {data : Option (List (Element t))}
    (raised : (pack data start len).outcome = .error (.outOfRange e)) :
    e.region = .elements ∧ ExactCause t .elements data start len e.cause := by
  have decides : FirstDecides (ofReading t .elements data start len)
      (pack data start len).outcome := by
    apply firstDecides_reading
    intro items
    rw [Reply.outcome_bind, Reply.outcome_ofOutcome]
    exact firstDecides_pack items start len
  rw [raised] at decides
  exact exactCause_of_reading decides

/-- A call that makes an array of elements blames the bytes, with exact numbers. -/
theorem exactCause_of_unpack {data : Option (List Int8)}
    (raised : (unpack t data start len).outcome = .error (.outOfRange e)) :
    e.region = .bytes ∧ ExactCause t .bytes data start len e.cause := by
  have decides : FirstDecides (ofReading t .bytes data start len)
      (unpack t data start len).outcome := by
    apply firstDecides_reading
    intro items
    rw [← length_unsigned items, Reply.outcome_ofOutcome]
    exact firstDecides_unpack (unsigned items) start len
  rw [raised] at decides
  exact exactCause_of_reading decides

/-- Every exception for a range, whatever the arguments of the call are, tells exact numbers: the
negative number that was passed, or the exact end of a range of the host together with the length of
its array, in bytes on the side of the bytes and in elements on the side of the elements.  That an
end is no word is never told.  The calls at the number types of the host are these calls. -/
theorem reported_numbers_are_exact (t : ElementType) (inStart outStart start len : Int32) :
    (∀ (inData : Option (List (Element t))) (outData : Option (List Int8)) (x : Exception)
      (e : RangeError),
      (packInto inData inStart outData outStart len).outcome = .error x → x.source = some e →
      (e.region = .elements ∧ ExactCause t .elements inData inStart len e.cause) ∨
        (e.region = .bytes ∧ ExactCause t .bytes outData outStart len e.cause)) ∧
    (∀ (inData : Option (List Int8)) (outData : Option (List (Element t))) (x : Exception)
      (e : RangeError),
      (unpackInto inData inStart outData outStart len).outcome = .error x → x.source = some e →
      (e.region = .bytes ∧ ExactCause t .bytes inData inStart len e.cause) ∨
        (e.region = .elements ∧ ExactCause t .elements outData outStart len e.cause)) ∧
    (∀ (data : Option (List (Element t))) (x : Exception) (e : RangeError),
      (pack data start len).outcome = .error x → x.source = some e →
      e.region = .elements ∧ ExactCause t .elements data start len e.cause) ∧
    (∀ (data : Option (List Int8)) (x : Exception) (e : RangeError),
      (unpack t data start len).outcome = .error x → x.source = some e →
      e.region = .bytes ∧ ExactCause t .bytes data start len e.cause) ∧
    ∀ p : Primitive, p.packInto = packInto ∧ p.unpackInto = unpackInto ∧ p.pack = pack ∧
      p.unpack = unpack p.elementType := by
  refine ⟨?_, ?_, ?_, ?_, fun p => ⟨rfl, rfl, rfl, rfl⟩⟩
  · intro inData outData x e raised source
    rw [Exception.source_eq_some_iff.1 source] at raised
    exact exactCause_of_packInto raised
  · intro inData outData x e raised source
    rw [Exception.source_eq_some_iff.1 source] at raised
    exact exactCause_of_unpackInto raised
  · intro data x e raised source
    rw [Exception.source_eq_some_iff.1 source] at raised
    exact exactCause_of_pack raised
  · intro data x e raised source
    rw [Exception.source_eq_some_iff.1 source] at raised
    exact exactCause_of_unpack raised

/-- The largest end that the host can ask for, in a buffer of three bytes, and the least of its
numbers as a start. -/
theorem reported_numbers_are_exact_float64 :
    ((unpack .float64 (some [1, 2, 3]) 2147483647 2147483647).outcome =
        .error (.outOfRange ⟨.bytes, .pastEnd 19327352823 3⟩) ∧
      ExactCause .float64 .bytes (some [(1 : Int8), 2, 3]) 2147483647 2147483647
        (.pastEnd 19327352823 3)) ∧
    (packInto (t := .float64) (some [⟨0⟩]) 2147483647 (some [1, 2, 3]) (-2147483648) 1).outcome =
        .error (.outOfRange ⟨.bytes, .negativeStart (-2147483648)⟩) ∧
      ExactCause .float64 .bytes (some [(1 : Int8), 2, 3]) (-2147483648) 1
        (.negativeStart (-2147483648)) := by
  obtain ⟨-, -, -, unpacking, -⟩ :=
    reported_numbers_are_exact .float64 0 0 2147483647 2147483647
  obtain ⟨packing, -⟩ := reported_numbers_are_exact .float64 2147483647 (-2147483648) 0 1
  have large : (unpack .float64 (some [1, 2, 3]) 2147483647 2147483647).outcome =
      .error (.outOfRange ⟨.bytes, .pastEnd 19327352823 3⟩) := by decide
  have least : (packInto (t := .float64) (some [⟨0⟩]) 2147483647 (some [1, 2, 3]) (-2147483648)
      1).outcome = .error (.outOfRange ⟨.bytes, .negativeStart (-2147483648)⟩) := by decide
  obtain ⟨elements, -⟩ | ⟨-, told⟩ := packing _ _ _ _ least rfl
  · cases elements
  · exact ⟨⟨large, (unpacking _ _ _ large rfl).2⟩, least, told⟩

end Calls

end BytePacking.Host
