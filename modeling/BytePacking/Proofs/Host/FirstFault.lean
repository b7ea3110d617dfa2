import BytePacking.Proofs.FirstFault
import BytePacking.Proofs.Traps

/-!
# Which fault the host is told of

A call of the host can be faulty in up to seven ways at once: an array may be missing, an index or
the length may be negative, and a range may end behind its array.  The host is told of one fault
only, and `calls_raise_first_fault` says of which: missing arrays come first, then the start and the
length on the side that is read, then the start on the side that is written, and last the ends of
the ranges, again on the side that is read before the other.  So everything about the order follows
from which side is read, and that also is the side on which a negative length is reported.

The ends of ranges are exact.  The numbers of the host are so small that no end fails to be a word.

The faults of a call are a list (`Fault.ofReading`, `Fault.ofCopying`), and `Fault.FirstDecides` says
that the first of them decides.  Checking the arguments decides by all but the ends of the ranges,
whatever is done with the arguments afterwards (`firstDecides_reading`, `firstDecides_copying`); the
operations on unsigned bytes decide by these.
-/

set_option autoImplicit false

namespace BytePacking

/-- The number of positions that some elements take in a region. -/
def Region.positions (t : ElementType) (count : Nat) : Region → Nat
  | .bytes => count * t.width
  | .elements => count

namespace Host

/-! ## Faults -/

/-- Something that may be wrong with a call. -/
structure Fault where
  /-- It is wrong with this call. -/
  present : Prop
  /-- The exception by which the host is told of it. -/
  exception : Exception

namespace Fault

section Kinds

variable {σ δ : Type}

/-- No array is passed for the argument of this name. -/
def missing (argument : String) (data : Option (List σ)) : Fault where
  present := data = none
  exception := .nullArgument argument

/-- A start index is negative. -/
def negativeStart (region : Region) (start : Int32) : Fault where
  present := start.toInt < 0
  exception := .outOfRange ⟨region, .negativeStart start.toInt⟩

/-- A length is negative. -/
def negativeLength (region : Region) (len : Int32) : Fault where
  present := len.toInt < 0
  exception := .outOfRange ⟨region, .negativeLength len.toInt⟩

/-- The range of `len` elements from `start` on ends behind the `capacity` of its region. -/
def pastEnd (t : ElementType) (region : Region) (capacity : Nat) (start len : Int32) : Fault where
  present := capacity < start.toInt.toNat + region.positions t len.toInt.toNat
  exception :=
    .outOfRange ⟨region, .pastEnd (start.toInt.toNat + region.positions t len.toInt.toNat) capacity⟩

/-- What may be wrong with a call that makes a new array from what it reads in the region `source`,
in the order in which the host is told. -/
def ofReading (t : ElementType) (source : Region) (data : Option (List σ)) (start len : Int32) :
    List Fault :=
  [missing "data" data, negativeStart source start, negativeLength source len,
    pastEnd t source (data.getD []).length start len]

/-- What may be wrong with a call that copies from the region `source` to the region `target`, in
the order in which the host is told. -/
def ofCopying (t : ElementType) (source target : Region) (inData : Option (List σ))
    (inStart : Int32) (outData : Option (List δ)) (outStart len : Int32) : List Fault :=
  [missing "inData" inData, missing "outData" outData, negativeStart source inStart,
    negativeLength source len, negativeStart target outStart,
    pastEnd t source (inData.getD []).length inStart len,
    pastEnd t target (outData.getD []).length outStart len]

end Kinds

/-- Of some faults the first that is present decides how a call ends: its exception is raised.
Where none of them is present the call succeeds. -/
def FirstDecides {α : Type} : List Fault → Outcome Exception α → Prop
  | [], outcome => ∃ a, outcome = .ok a
  | fault :: faults, outcome =>
    (fault.present → outcome = .error fault.exception) ∧
      (¬ fault.present → FirstDecides faults outcome)

/-- Without faults a call succeeds. -/
theorem firstDecides_nil {α : Type} {outcome : Outcome Exception α} {a : α}
    (h : outcome = .ok a) : FirstDecides [] outcome :=
  ⟨a, h⟩

/-- Asking whether a fault is present, and raising its exception if so, lets it decide before all
that follows. -/
theorem firstDecides_ite {α : Type} {p : Prop} [Decidable p] {e : Exception} {faults : List Fault}
    {otherwise : Outcome Exception α} (h : ¬ p → FirstDecides faults otherwise) :
    FirstDecides (⟨p, e⟩ :: faults) (if p then .error e else otherwise) := by
  constructor
  · intro (present : p)
    exact if_pos present
  · intro (absent : ¬ p)
    rw [if_neg absent]
    exact h absent

end Fault

/-! ## Arguments -/

section Arguments

open Fault

variable {σ δ γ : Type} {t : ElementType} {source target : Region}

/-- A call that makes an array decides by its arguments first and then by what it makes of them. -/
theorem firstDecides_reading {data : Option (List σ)} {start len : Int32}
    {next : Source σ → Reply γ}
    (accepted : ∀ items : List σ, FirstDecides [pastEnd t source items.length start len]
      (next ⟨items, start.toInt.toNat, len.toInt.toNat⟩).outcome) :
    FirstDecides (ofReading t source data start len)
      (readingArguments source data start len >>= next).outcome := by
  rw [Reply.outcome_bind]
  refine ⟨?_, fun present => ?_⟩
  · rintro (rfl : data = none)
    rfl
  obtain ⟨items, rfl⟩ := Option.ne_none_iff_exists'.1 present
  simp only [outcome_readingArguments, Outcome.ite_error_bind]
  exact firstDecides_ite fun _ => firstDecides_ite fun _ => accepted items

/-- A call that copies decides by its arguments first and then by the change that it makes. -/
theorem firstDecides_copying {record : Record} {inData : Option (List σ)} {inStart : Int32}
    {outData : Option (List δ)} {outStart len : Int32}
    {change : Source σ × Target δ → Update RangeError (List δ)}
    (accepted : ∀ (inItems : List σ) (outItems : List δ),
      FirstDecides [pastEnd t source inItems.length inStart len,
          pastEnd t target outItems.length outStart len]
        ((change (⟨inItems, inStart.toInt.toNat, len.toInt.toNat⟩,
          ⟨outItems, outStart.toInt.toNat⟩)).outcome.mapError .outOfRange)) :
    FirstDecides (ofCopying t source target inData inStart outData outStart len)
      (Reply.update
        (do
          Reply.record record
          copyingArguments source target inData inStart outData outStart len)
        outData change).outcome := by
  rw [Reply.outcome_update, Reply.record_bind]
  refine ⟨?_, fun present => ?_⟩
  · rintro (rfl : inData = none)
    rfl
  obtain ⟨inItems, rfl⟩ := Option.ne_none_iff_exists'.1 present
  refine ⟨?_, fun present => ?_⟩
  · rintro (rfl : outData = none)
    rfl
  obtain ⟨outItems, rfl⟩ := Option.ne_none_iff_exists'.1 present
  simp only [outcome_copyingArguments, Outcome.ite_error_bind]
  exact firstDecides_ite fun _ => firstDecides_ite fun _ => firstDecides_ite fun _ =>
    accepted inItems outItems

/-- Arguments that are accepted name the array that was passed. -/
theorem items_of_copyingArguments {inData : Option (List σ)} {inStart : Int32}
    {outData : Option (List δ)} {outStart len : Int32} {arguments : Source σ × Target δ}
    (h : (copyingArguments source target inData inStart outData outStart len).outcome =
      .ok arguments) : outData = some arguments.2.items :=
  (outcome_copyingArguments_eq_ok_iff.1 h).2.1

end Arguments

/-! ## Ranges -/

section Ranges

open Fault

variable {t : ElementType}

/-- What the host counts in elements ends at a word. -/
theorem not_wordLimit_le_element_stop (start len : Int32) :
    ¬ AddressSpace.wordLimit ≤ start.toInt.toNat + len.toInt.toNat := by
  have start' := start.toInt_lt
  have len' := len.toInt_lt
  have bound : 2 ^ 31 + 2 ^ 31 ≤ AddressSpace.wordLimit := by decide
  omega

/-- So does what it counts in elements of bytes. -/
theorem not_wordLimit_le_byte_stop (t : ElementType) (start len : Int32) :
    ¬ AddressSpace.wordLimit ≤ start.toInt.toNat + len.toInt.toNat * t.width := by
  have start' := start.toInt_lt
  have few := toNat_mul_width_le_allocationLimit len t
  have bound : 2 ^ 31 + AddressSpace.allocationLimit ≤ AddressSpace.wordLimit := by decide
  omega

/-- With numbers that are not negative, writing in place has two faults: the elements end too early,
or else the bytes do. -/
theorem firstDecides_packInto (values : List (Element t)) (dest : List UInt8)
    (inStart outStart len : Int32) :
    FirstDecides [pastEnd t .elements values.length inStart len,
        pastEnd t .bytes dest.length outStart len]
      ((BytePacking.packInto values inStart.toInt.toNat dest outStart.toInt.toNat
        len.toInt.toNat).outcome.mapError .outOfRange) := by
  simp only [outcome_packInto, Outcome.mapError_ite_error,
    if_neg (not_wordLimit_le_element_stop inStart len),
    if_neg (not_wordLimit_le_byte_stop t outStart len)]
  exact firstDecides_ite fun _ => firstDecides_ite fun _ => firstDecides_nil rfl

/-- With numbers that are not negative, reading in place has two faults: the bytes end too early, or
else the elements do. -/
theorem firstDecides_unpackInto (bytes : List UInt8) (dest : List (Element t))
    (inStart outStart len : Int32) :
    FirstDecides [pastEnd t .bytes bytes.length inStart len,
        pastEnd t .elements dest.length outStart len]
      ((BytePacking.unpackInto bytes inStart.toInt.toNat dest outStart.toInt.toNat
        len.toInt.toNat).outcome.mapError .outOfRange) := by
  simp only [outcome_unpackInto, Outcome.mapError_ite_error,
    if_neg (not_wordLimit_le_byte_stop t inStart len),
    if_neg (not_wordLimit_le_element_stop outStart len)]
  exact firstDecides_ite fun _ => firstDecides_ite fun _ => firstDecides_nil rfl

/-- What a call makes for the host is never too large, so that only the range that is read can be
refused. -/
theorem firstDecides_pack (values : List (Element t)) (start len : Int32) :
    FirstDecides [pastEnd t .elements values.length start len]
      ((BytePacking.pack values start.toInt.toNat 0 len.toInt.toNat).mapError .outOfRange >>=
        fun bytes => .ok (signed bytes)) := by
  have limit := AddressSpace.allocationLimit_lt_wordLimit
  have room : 0 + len.toInt.toNat * t.width ≤ AddressSpace.allocationLimit := by
    rw [Nat.zero_add]
    exact toNat_mul_width_le_allocationLimit len t
  have word : 0 + len.toInt.toNat * t.width < AddressSpace.wordLimit := by omega
  rw [pack_eq, Window.ite_fits, if_neg (not_wordLimit_le_element_stop start len), if_pos word,
    if_pos room, Outcome.mapError_ite_error, Outcome.ite_error_bind]
  exact firstDecides_ite fun _ => firstDecides_nil rfl

/-- With numbers that are not negative, reading into a new array has one fault: the bytes end too
early. -/
theorem firstDecides_unpack (bytes : List UInt8) (start len : Int32) :
    FirstDecides [pastEnd t .bytes bytes.length start len]
      ((BytePacking.unpack t bytes start.toInt.toNat 0 len.toInt.toNat).mapError .outOfRange) := by
  have limit := AddressSpace.allocationLimit_lt_wordLimit
  have few : len.toInt.toNat ≤ len.toInt.toNat * t.width := t.le_mul_width _
  have room : (0 + len.toInt.toNat) * t.width ≤ AddressSpace.allocationLimit := by
    rw [Nat.zero_add]
    exact toNat_mul_width_le_allocationLimit len t
  have word : 0 + len.toInt.toNat < AddressSpace.wordLimit := by
    rw [Nat.zero_add] at room
    omega
  rw [unpack_eq, Window.ite_fits, if_neg (not_wordLimit_le_byte_stop t start len), if_pos word,
    if_pos room, Outcome.mapError_ite_error]
  exact firstDecides_ite fun _ => firstDecides_nil rfl

end Ranges

/-! ## Calls -/

section Calls

open Fault

variable {t : ElementType}

/-- A call that fails to write leaves the bytes of the host as they were. -/
theorem dest_packInto_of_ne_ok {inData : Option (List (Element t))} {inStart : Int32}
    {outData : Option (List Int8)} {outStart len : Int32}
    (fails : (packInto inData inStart outData outStart len).outcome ≠ .ok ()) :
    (packInto inData inStart outData outStart len).dest = outData := by
  refine Reply.dest_update_of_ne_ok ?_ fails
  intro (source, target) accepted changeFails
  rw [Update.outcome_map] at changeFails
  rw [Update.dest_map, BytePacking.dest_packInto_of_ne_ok changeFails, signed_unsigned]
  exact items_of_copyingArguments accepted

/-- A call that fails to read leaves the array of the host as it was. -/
theorem dest_unpackInto_of_ne_ok {inData : Option (List Int8)} {inStart : Int32}
    {outData : Option (List (Element t))} {outStart len : Int32}
    (fails : (unpackInto inData inStart outData outStart len).outcome ≠ .ok ()) :
    (unpackInto inData inStart outData outStart len).dest = outData := by
  refine Reply.dest_update_of_ne_ok ?_ fails
  intro (source, target) accepted changeFails
  rw [BytePacking.dest_unpackInto_of_ne_ok changeFails]
  exact items_of_copyingArguments accepted

/-- Each call ends as the first of its faults says, and succeeds where there is none; a call that
copies leaves the array of the host alone unless it succeeds.  The exception for a missing array
names the argument, and any other has the refusal as its source and the text of it as its
message. -/
theorem calls_raise_first_fault (t : ElementType) (inStart outStart start len : Int32) :
    (∀ (inData : Option (List (Element t))) (outData : Option (List Int8)),
      let call := packInto inData inStart outData outStart len
      FirstDecides (ofCopying t .elements .bytes inData inStart outData outStart len)
          call.outcome ∧
        (call.outcome ≠ .ok () → call.dest = outData)) ∧
    (∀ (inData : Option (List Int8)) (outData : Option (List (Element t))),
      let call := unpackInto inData inStart outData outStart len
      FirstDecides (ofCopying t .bytes .elements inData inStart outData outStart len)
          call.outcome ∧
        (call.outcome ≠ .ok () → call.dest = outData)) ∧
    (∀ data : Option (List (Element t)),
      FirstDecides (ofReading t .elements data start len) (pack data start len).outcome) ∧
    (∀ data : Option (List Int8),
      FirstDecides (ofReading t .bytes data start len) (unpack t data start len).outcome) ∧
    (∀ argument : String,
      let e := Exception.nullArgument argument
      e.hostClass = .nullPointer ∧ e.source = none ∧ e.message = argument ++ " is null") ∧
    ∀ error : RangeError,
      let e := Exception.outOfRange error
      e.hostClass = .indexOutOfBounds ∧ e.source = some error ∧ e.message = error.message := by
  refine ⟨?_, ?_, ?_, ?_, fun _ => ⟨rfl, rfl, rfl⟩, fun _ => ⟨rfl, rfl, rfl⟩⟩
  · intro inData outData
    refine ⟨firstDecides_copying ?_, dest_packInto_of_ne_ok⟩
    intro inItems outItems
    rw [← length_unsigned outItems]
    exact firstDecides_packInto inItems (unsigned outItems) inStart outStart len
  · intro inData outData
    refine ⟨firstDecides_copying ?_, dest_unpackInto_of_ne_ok⟩
    intro inItems outItems
    rw [← length_unsigned inItems]
    exact firstDecides_unpackInto (unsigned inItems) outItems inStart outStart len
  · intro data
    apply firstDecides_reading
    intro items
    rw [Reply.outcome_bind, Reply.outcome_ofOutcome]
    exact firstDecides_pack items start len
  · intro data
    apply firstDecides_reading
    intro items
    rw [← length_unsigned items, Reply.outcome_ofOutcome]
    exact firstDecides_unpack (unsigned items) start len

/-- A negative length is told before a negative start on the side that is written, and on the side
that is read; nothing is written.  A missing array is told before all else.  One number of sixteen
bits does not fit in the last byte of three. -/
theorem calls_raise_first_fault_int16 :
    (packInto (t := .int16) (some [⟨5⟩]) 1 (some [9]) (-3) (-2)).outcome =
        .error (.outOfRange ⟨.elements, .negativeLength (-2)⟩) ∧
      (packInto (t := .int16) (some [⟨5⟩]) 1 (some [9]) (-3) (-2)).dest = some [9] ∧
      (unpackInto (t := .int16) (some [9]) 1 (some [⟨5⟩]) (-3) (-2)).outcome =
        .error (.outOfRange ⟨.bytes, .negativeLength (-2)⟩) ∧
      (pack (t := .int16) none 2 (-2)).outcome = .error (.nullArgument "data") ∧
      (unpack .int16 (some [1, 2, 3]) 2 1).outcome =
        .error (.outOfRange ⟨.bytes, .pastEnd 4 3⟩) := by
  obtain ⟨packing, unpacking, making, -⟩ := calls_raise_first_fault .int16 1 (-3) 2 (-2)
  obtain ⟨-, -, -, reading, -⟩ := calls_raise_first_fault .int16 1 (-3) 2 1
  have start : ¬ (1 : Int32).toInt < 0 := by decide
  have start' : ¬ (2 : Int32).toInt < 0 := by decide
  have negative : (-2 : Int32).toInt < 0 := by decide
  have beyond : [1, 2, 3].length < (2 : Int32).toInt.toNat + (1 : Int32).toInt.toNat * 2 := by
    decide
  obtain ⟨packed, keeps⟩ := packing (some [⟨5⟩]) (some [9])
  obtain ⟨unpacked, -⟩ := unpacking (some [9]) (some [⟨5⟩])
  have raised := (((packed.2 nofun).2 nofun).2 start).1 negative
  refine ⟨raised, keeps ?_, ?_, (making none).1 rfl, ?_⟩
  · rw [raised]
    nofun
  · exact (((unpacked.2 nofun).2 nofun).2 start).1 negative
  · exact ((((reading (some [1, 2, 3])).2 nofun).2 start').2 start).1 beyond

end Calls

end Host

end BytePacking
