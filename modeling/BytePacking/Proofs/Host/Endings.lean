import BytePacking.Host.Pack
import BytePacking.Host.Unpack
import BytePacking.Proofs.Endings

/-!
# How the calls of the host end

The outcome of a call, without its records, is that of its parts in turn: it is the first exception
that one of them raises, or else the value of the last (`Reply.outcome_bind`).  For the arguments of
a call this gives the order in which the host is told of their faults (`outcome_copyingArguments`,
`outcome_readingArguments`).

A call that copies ends as the operation on unsigned bytes does, once its arguments are accepted,
and leaves the array of the host alone where they are not.
-/

set_option autoImplicit false

namespace BytePacking.Host

section Replies

variable {α β : Type}

/-- The outcome of two parts of a call is known from the outcomes of each. -/
theorem Reply.outcome_bind (r : Reply α) (next : α → Reply β) :
    (r >>= next).outcome = r.outcome >>= fun a => (next a).outcome := by
  obtain ⟨log, outcome⟩ := r
  cases outcome <;> rfl

/-- An operation ends for the host as it ends, with an exception for its error. -/
@[simp] theorem Reply.outcome_ofOutcome (o : Outcome RangeError α) :
    (ofOutcome o).outcome = o.mapError .outOfRange := by
  cases o <;> rfl

/-- A copying call is its arguments and then its change, but for the array that it leaves. -/
theorem Reply.toReply_update {δ : Type} (arguments : Reply α) (dest : Option (List δ))
    (change : α → Update RangeError (List δ)) :
    (arguments.update dest change).toReply =
      arguments >>= fun a => ofOutcome (change a).outcome := by
  obtain ⟨log, outcome⟩ := arguments
  cases outcome <;> rfl

/-- A call that copies into an array ends as its change does, once its arguments are accepted. -/
theorem Reply.outcome_update {δ : Type} (arguments : Reply α) (dest : Option (List δ))
    (change : α → Update RangeError (List δ)) :
    (arguments.update dest change).outcome =
      arguments.outcome >>= fun a => (change a).outcome.mapError .outOfRange := by
  rw [toReply_update, outcome_bind]
  simp only [outcome_ofOutcome]

/-- A call whose arguments are refused raises their exception and leaves the array as it was. -/
theorem Reply.update_of_error {δ : Type} {arguments : Reply α} {e : Exception}
    (dest : Option (List δ)) (change : α → Update RangeError (List δ))
    (h : arguments.outcome = .error e) :
    (arguments.update dest change).outcome = .error e ∧
      (arguments.update dest change).dest = dest := by
  unfold Reply.update
  rw [h]
  exact ⟨rfl, rfl⟩

/-- A call whose arguments are accepted leaves what its change leaves. -/
theorem Reply.dest_update_of_ok {δ : Type} {arguments : Reply α} {a : α} (dest : Option (List δ))
    (change : α → Update RangeError (List δ)) (h : arguments.outcome = .ok a) :
    (arguments.update dest change).dest = some (change a).dest := by
  unfold Reply.update
  rw [h]

/-- Unless it succeeds, a call leaves the array as it was if its change does so. -/
theorem Reply.dest_update_of_ne_ok {δ : Type} {arguments : Reply α} {dest : Option (List δ)}
    {change : α → Update RangeError (List δ)}
    (keeps : ∀ a, arguments.outcome = .ok a → (change a).outcome ≠ .ok () →
      dest = some (change a).dest)
    (fails : (arguments.update dest change).outcome ≠ .ok ()) :
    (arguments.update dest change).dest = dest := by
  cases ends : arguments.outcome with
  | ok a =>
    rw [dest_update_of_ok dest change ends]
    refine (keeps a ends ?_).symm
    intro ok
    apply fails
    rw [outcome_update, ends, Outcome.ok_bind, ok]
    rfl
  | error e => exact (update_of_error dest change ends).2
  | trap =>
    unfold Reply.update
    rw [ends]

end Replies

section Arguments

variable {σ δ : Type} {region source target : Region}

/-- A start index that is checked and raised on its own. -/
theorem outcome_start (start : Int32) :
    (Reply.ofOutcome (.ofExcept (nonnegativeStart region start))).outcome =
      if start.toInt < 0 then .error (.outOfRange ⟨region, .negativeStart start.toInt⟩)
      else .ok start.toInt.toNat := by
  rw [Reply.outcome_ofOutcome]
  split
  · next negative => rw [nonnegativeStart_eq_error negative, Outcome.ofExcept_error,
      Outcome.mapError_error]
  · next inside => rw [nonnegativeStart_eq_ok (Int.not_lt.1 inside), Outcome.ofExcept_ok,
      Outcome.mapError_ok]

/-- A length that is checked and raised on its own. -/
theorem outcome_length (length : Int32) :
    (Reply.ofOutcome (.ofExcept (nonnegativeLength region length))).outcome =
      if length.toInt < 0 then .error (.outOfRange ⟨region, .negativeLength length.toInt⟩)
      else .ok length.toInt.toNat := by
  rw [Reply.outcome_ofOutcome]
  split
  · next negative => rw [nonnegativeLength_eq_error negative, Outcome.ofExcept_error,
      Outcome.mapError_error]
  · next inside => rw [nonnegativeLength_eq_ok (Int.not_lt.1 inside), Outcome.ofExcept_ok,
      Outcome.mapError_ok]

/-- Arguments for reading from an array end with the first of their numbers that is negative. -/
theorem outcome_readingArguments (items : List σ) (start length : Int32) :
    (readingArguments region (some items) start length).outcome =
      if start.toInt < 0 then .error (.outOfRange ⟨region, .negativeStart start.toInt⟩)
      else if length.toInt < 0 then .error (.outOfRange ⟨region, .negativeLength length.toInt⟩)
      else .ok ⟨items, start.toInt.toNat, length.toInt.toNat⟩ := by
  unfold readingArguments
  rw [Reply.nonNull_some, pure_bind, Reply.outcome_bind, outcome_start, Outcome.ite_error_bind,
    Outcome.ok_bind, Reply.outcome_bind, outcome_length, Outcome.ite_error_bind, Outcome.ok_bind,
    Reply.outcome_pure]

/-- Arguments for copying between two arrays end with the first of their numbers that is
negative. -/
theorem outcome_copyingArguments (inItems : List σ) (inStart : Int32) (outItems : List δ)
    (outStart length : Int32) :
    (copyingArguments source target (some inItems) inStart (some outItems) outStart
      length).outcome =
      if inStart.toInt < 0 then .error (.outOfRange ⟨source, .negativeStart inStart.toInt⟩)
      else if length.toInt < 0 then .error (.outOfRange ⟨source, .negativeLength length.toInt⟩)
      else if outStart.toInt < 0 then
        .error (.outOfRange ⟨target, .negativeStart outStart.toInt⟩)
      else .ok (⟨inItems, inStart.toInt.toNat, length.toInt.toNat⟩,
        ⟨outItems, outStart.toInt.toNat⟩) := by
  unfold copyingArguments
  rw [Reply.nonNull_some, pure_bind, Reply.nonNull_some, pure_bind, Reply.outcome_bind,
    Reply.outcome_ofOutcome]
  -- The checks run in the order of the cases, so that each one needs those before it only.
  split
  · next negative =>
    rw [nonnegativeStart_eq_error negative]
    rfl
  · next start =>
    rw [nonnegativeStart_eq_ok (Int.not_lt.1 start)]
    split
    · next negative =>
      rw [nonnegativeLength_eq_error negative]
      rfl
    · next count =>
      rw [nonnegativeLength_eq_ok (Int.not_lt.1 count)]
      split
      · next negative =>
        rw [nonnegativeStart_eq_error negative]
        rfl
      · next start' =>
        rw [nonnegativeStart_eq_ok (Int.not_lt.1 start')]
        rfl

/-- Arguments for reading are accepted where an array was passed and no number is negative, and they
are what was passed. -/
theorem outcome_readingArguments_eq_ok_iff {data : Option (List σ)} {start length : Int32}
    {s : Source σ} :
    (readingArguments region data start length).outcome = .ok s ↔
      data = some s.items ∧ start.toInt = s.start ∧ length.toInt = s.length := by
  obtain ⟨items', first, count⟩ := s
  cases data with
  | none => exact iff_of_false nofun nofun
  | some items =>
    rw [outcome_readingArguments]
    split
    · simp only [reduceCtorEq, false_iff]
      omega
    · split
      · simp only [reduceCtorEq, false_iff]
        omega
      · simp only [Outcome.ok.injEq, Source.mk.injEq, Option.some.injEq]
        exact and_congr_right fun _ => by omega

/-- Arguments for copying are accepted where both arrays were passed and no number is negative, and
they are what was passed. -/
theorem outcome_copyingArguments_eq_ok_iff {inData : Option (List σ)} {outData : Option (List δ)}
    {inStart outStart length : Int32} {s : Source σ} {d : Target δ} :
    (copyingArguments source target inData inStart outData outStart length).outcome = .ok (s, d) ↔
      (inData = some s.items ∧ inStart.toInt = s.start ∧ length.toInt = s.length) ∧
        outData = some d.items ∧ outStart.toInt = d.start := by
  obtain ⟨inItems', inFirst, count⟩ := s
  obtain ⟨outItems', outFirst⟩ := d
  cases inData with
  | none => exact iff_of_false nofun nofun
  | some inItems =>
    cases outData with
    | none => exact iff_of_false nofun nofun
    | some outItems =>
      rw [outcome_copyingArguments]
      simp only [Option.some.injEq]
      split
      · simp only [reduceCtorEq, false_iff]
        omega
      · split
        · simp only [reduceCtorEq, false_iff]
          omega
        · split
          · simp only [reduceCtorEq, false_iff]
            omega
          · simp only [Outcome.ok.injEq, Prod.mk.injEq, Source.mk.injEq, Target.mk.injEq]
            exact and_congr (and_congr_right fun _ => by omega) (and_congr_right fun _ => by omega)

/-- Of several faults a missing source is told first. -/
theorem outcome_copyingArguments_none (inStart : Int32) (outData : Option (List δ))
    (outStart length : Int32) :
    (copyingArguments source target (none : Option (List σ)) inStart outData outStart
      length).outcome = .error (.nullArgument "inData") :=
  rfl

/-- Faulty arguments raise the same exception, whatever the array holds that is to be written. -/
theorem exists_exception_of_fault {inData : Option (List σ)} {inStart outStart length : Int32}
    (faulty : inData = none ∨ inStart.toInt < 0 ∨ length.toInt < 0 ∨ outStart.toInt < 0) :
    ∃ e, ∀ outItems : List δ, (copyingArguments source target inData inStart (some outItems)
      outStart length).outcome = .error e := by
  cases inData with
  | none => exact ⟨_, fun outItems => outcome_copyingArguments_none ..⟩
  | some inItems =>
    by_cases hin : inStart.toInt < 0
    · refine ⟨.outOfRange ⟨source, .negativeStart inStart.toInt⟩, ?_⟩
      intro outItems
      rw [outcome_copyingArguments, if_pos hin]
    · by_cases hlen : length.toInt < 0
      · refine ⟨.outOfRange ⟨source, .negativeLength length.toInt⟩, ?_⟩
        intro outItems
        rw [outcome_copyingArguments, if_neg hin, if_pos hlen]
      · have hout : outStart.toInt < 0 := by simpa [hin, hlen] using faulty
        refine ⟨.outOfRange ⟨target, .negativeStart outStart.toInt⟩, ?_⟩
        intro outItems
        rw [outcome_copyingArguments, if_neg hin, if_neg hlen, if_pos hout]

end Arguments

end BytePacking.Host
