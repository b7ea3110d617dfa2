/-!
# How an operation ends

An operation ends with a value, with an error that tells its caller what was wrong with the
request, or in a trap.  A trap is no answer at all: a precondition that the operation does not
check was broken, or it needed an array larger than any machine can hold.  Errors and traps are
kept apart because callers recover from the one and not from the other.

`Outcome` is a lawful monad in which the first error or trap ends the computation.
-/

set_option autoImplicit false

namespace BytePacking

/-- How an operation ends. -/
inductive Outcome (ε α : Type) where
  /-- The operation succeeded. -/
  | ok (value : α)
  /-- The operation was refused for a stated reason. -/
  | error (reason : ε)
  /-- The operation has no answer. -/
  | trap
  deriving Repr, DecidableEq

namespace Outcome

variable {ε ε' α β : Type}

/-- Goes on with the value of a success; an error or a trap ends the computation. -/
protected def bind (o : Outcome ε α) (next : α → Outcome ε β) : Outcome ε β :=
  match o with
  | ok a => next a
  | error e => error e
  | trap => trap

/-- Computations are put together so that the first error or trap ends them. -/
instance : Monad (Outcome ε) where
  pure := ok
  bind := Outcome.bind

/-- A value alone is a success. -/
@[simp] theorem pure_eq_ok (a : α) : (pure a : Outcome ε α) = ok a := rfl

/-- After a success the next step runs on its value. -/
@[simp] theorem ok_bind (a : α) (next : α → Outcome ε β) : (ok a >>= next) = next a := rfl

/-- After an error nothing runs. -/
@[simp] theorem error_bind (e : ε) (next : α → Outcome ε β) :
    (error e >>= next) = error e := rfl

/-- After a trap nothing runs. -/
@[simp] theorem trap_bind (next : α → Outcome ε β) : ((trap : Outcome ε α) >>= next) = trap := rfl

/-- A function is applied to the value of a success. -/
@[simp] theorem map_ok (f : α → β) (a : α) : f <$> (ok a : Outcome ε α) = ok (f a) := rfl

/-- An error has no value to apply a function to. -/
@[simp] theorem map_error (f : α → β) (e : ε) : f <$> (error e : Outcome ε α) = error e := rfl

/-- Nor has a trap. -/
@[simp] theorem map_trap (f : α → β) : f <$> (trap : Outcome ε α) = trap := rfl

/-- How steps are grouped makes no difference. -/
instance : LawfulMonad (Outcome ε) := by
  refine LawfulMonad.mk' _ ?_ ?_ ?_
  · intro _ o
    cases o <;> rfl
  · intros
    rfl
  · intro _ _ _ o _ _
    cases o <;> rfl

/-- A test that comes first still comes first when more steps follow. -/
theorem ite_error_bind {p : Prop} [Decidable p] (e : ε) (o : Outcome ε α)
    (next : α → Outcome ε β) :
    ((if p then error e else o) >>= next) = if p then error e else o >>= next := by
  split <;> rfl

/-- A computation that is nothing but a test succeeds where the test does. -/
theorem exists_ite_eq_ok_iff {p : Prop} [Decidable p] {a : α} {e : ε} :
    (∃ b, (if p then ok a else error e) = ok b) ↔ p := by
  split
  · next h => exact iff_of_true ⟨a, rfl⟩ h
  · next h => exact iff_of_false nofun h

/-- A computation in two steps succeeds where both of them do. -/
theorem bind_eq_ok_iff {o : Outcome ε α} {next : α → Outcome ε β} {b : β} :
    o >>= next = ok b ↔ ∃ a, o = ok a ∧ next a = ok b := by
  cases o <;> simp

/-- A function of the value does not change the error. -/
theorem map_eq_error_iff {f : α → β} {o : Outcome ε α} {e : ε} :
    f <$> o = error e ↔ o = error e := by
  cases o <;> simp

/-- Whether a computation succeeds is seen without its value. -/
theorem exists_eq_ok_iff_map {o : Outcome ε α} :
    (∃ a, o = ok a) ↔ (fun _ => ()) <$> o = ok () := by
  cases o <;> simp

/-- The second step matters only on what the first may give. -/
theorem bind_congr_of_ok {o : Outcome ε α} {next other : α → Outcome ε β}
    (h : ∀ a, o = ok a → next a = other a) : o >>= next = o >>= other := by
  cases o with
  | ok a => exact h a rfl
  | error e => rfl
  | trap => rfl

/-- A computation in two steps traps in neither if the second does not trap on what the first may
give. -/
theorem bind_ne_trap {o : Outcome ε α} {next : α → Outcome ε β} (first : o ≠ trap)
    (second : ∀ a, o = ok a → next a ≠ trap) : o >>= next ≠ trap := by
  cases o with
  | ok a => exact second a rfl
  | error e => nofun
  | trap => exact absurd rfl first

/-- Restates the reason of an error. -/
def mapError (f : ε → ε') : Outcome ε α → Outcome ε' α
  | ok a => ok a
  | error e => error (f e)
  | trap => trap

/-- A success has no reason to restate. -/
@[simp] theorem mapError_ok (f : ε → ε') (a : α) : (ok a).mapError f = ok a := rfl

/-- The reason of an error is restated. -/
@[simp] theorem mapError_error (f : ε → ε') (e : ε) :
    (error e : Outcome ε α).mapError f = error (f e) := rfl

/-- A trap has no reason to restate. -/
@[simp] theorem mapError_trap (f : ε → ε') : (trap : Outcome ε α).mapError f = trap := rfl

/-- Restating the reason changes no success. -/
theorem mapError_eq_ok_iff {f : ε → ε'} {o : Outcome ε α} {a : α} :
    o.mapError f = ok a ↔ o = ok a := by
  cases o <;> simp

/-- The error of a test is restated on its own. -/
theorem mapError_ite_error (f : ε → ε') {p : Prop} [Decidable p] (e : ε) (o : Outcome ε α) :
    (if p then error e else o).mapError f = if p then error (f e) else o.mapError f :=
  apply_ite ..

/-- Restating the reason and changing the value do not get into each other's way. -/
theorem mapError_map (f : ε → ε') (g : α → β) (o : Outcome ε α) :
    (g <$> o).mapError f = o.mapError f >>= fun a => ok (g a) := by
  cases o <;> rfl

/-- Restating the reason makes no trap. -/
theorem mapError_ne_trap (f : ε → ε') {o : Outcome ε α} (h : o ≠ trap) : o.mapError f ≠ trap := by
  cases o with
  | ok a => nofun
  | error e => nofun
  | trap => exact absurd rfl h

/-- A computation that never traps, as an outcome. -/
def ofExcept : Except ε α → Outcome ε α
  | .ok a => ok a
  | .error e => error e

/-- A success is a success. -/
@[simp] theorem ofExcept_ok (a : α) : (ofExcept (.ok a) : Outcome ε α) = ok a := rfl

/-- An error is an error. -/
@[simp] theorem ofExcept_error (e : ε) : (ofExcept (.error e) : Outcome ε α) = error e := rfl

/-- A computation that never traps does not trap as an outcome. -/
theorem ofExcept_ne_trap (o : Except ε α) : ofExcept o ≠ trap := by
  cases o <;> nofun

/-- The value of an option; where there is none, the error `e`. -/
def ofOption (e : ε) : Option α → Outcome ε α
  | some a => ok a
  | none => error e

/-- A value that is there is a success. -/
@[simp] theorem ofOption_some (e : ε) (a : α) : ofOption e (some a) = ok a := rfl

/-- A value that is not there is the given error. -/
@[simp] theorem ofOption_none (e : ε) : (ofOption e none : Outcome ε α) = error e := rfl

/-- The only success is the value of the option. -/
theorem ofOption_eq_ok_iff {e : ε} {o : Option α} {a : α} :
    ofOption e o = ok a ↔ o = some a := by
  cases o <;> simp

/-- A value that is not there is no trap where an error is given for it. -/
theorem ofOption_ne_trap (e : ε) (o : Option α) : ofOption e o ≠ trap := by
  cases o <;> nofun

/-- The value of an option; where there is none, a trap. -/
def ofOptionOrTrap : Option α → Outcome ε α
  | some a => ok a
  | none => trap

/-- A value that is there is a success. -/
@[simp] theorem ofOptionOrTrap_some (a : α) : (ofOptionOrTrap (some a) : Outcome ε α) = ok a := rfl

/-- A value that is not there is a trap. -/
@[simp] theorem ofOptionOrTrap_none : (ofOptionOrTrap none : Outcome ε α) = trap := rfl

/-- The only success is the value of the option. -/
theorem ofOptionOrTrap_eq_ok_iff {o : Option α} {a : α} :
    (ofOptionOrTrap o : Outcome ε α) = ok a ↔ o = some a := by
  cases o <;> simp

/-- A list is mapped successfully to the values of the single results. -/
theorem mapM_eq_ok {f : α → Outcome ε β} {xs : List α} {ys : List β} (h : xs.map f = ys.map ok) :
    xs.mapM f = ok ys := by
  induction xs generalizing ys with
  | nil =>
    obtain rfl := List.map_eq_nil_iff.1 h.symm
    rfl
  | cons x xs ih =>
    obtain ⟨y, ys, rfl, here, rest⟩ := List.map_eq_cons_iff.1 h.symm
    rw [List.mapM_cons, ← here, ok_bind, ih rest.symm]
    rfl

end Outcome

end BytePacking
