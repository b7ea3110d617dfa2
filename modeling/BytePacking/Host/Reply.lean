import BytePacking.Host.Record
import BytePacking.Update

/-!
# What a call gives back to the host

A `Reply` is the outcome of a call together with the records that the call left in the log, in
order.  The records stay when the call fails.  Every exception is raised by `Reply.fail`, which
records it.

A call that copies into an array of the host also leaves that array; it gives back a `Copied`.
-/

set_option autoImplicit false

namespace BytePacking.Host

/-- The outcome of a call and what it left in the log. -/
structure Reply (α : Type) where
  /-- The records that the call left, in order. -/
  log : List Record
  /-- How the call ended. -/
  outcome : Outcome Exception α
  deriving Repr, DecidableEq

namespace Reply

variable {α β δ : Type}

/-- Goes on with the value of a success, and puts the records of both parts together. -/
protected def bind (r : Reply α) (next : α → Reply β) : Reply β :=
  match r.outcome with
  | .ok a => ⟨r.log ++ (next a).log, (next a).outcome⟩
  | .error e => ⟨r.log, .error e⟩
  | .trap => ⟨r.log, .trap⟩

/-- Calls are put together so that the first exception ends them. -/
instance : Monad Reply where
  pure a := ⟨[], .ok a⟩
  bind := Reply.bind

/-- Leaves a record in the log. -/
def record (r : Record) : Reply Unit := ⟨[r], .ok ()⟩

/-- Raises an exception, and records it. -/
def fail (e : Exception) : Reply α := ⟨[.raising e], .error e⟩

/-- The outcome of an operation; the exception for its error is raised. -/
def ofOutcome : Outcome RangeError α → Reply α
  | .ok a => pure a
  | .error e => fail (.outOfRange e)
  | .trap => ⟨[], .trap⟩

/-- The array that was passed for an argument; it is an exception that it is null. -/
def nonNull (argument : String) : Option α → Reply α
  | some a => pure a
  | none => fail (.nullArgument argument)

/-- How the parts of a call are grouped makes no difference, neither to the outcome nor to the log.
-/
instance : LawfulMonad Reply := by
  refine LawfulMonad.mk' _ ?_ ?_ ?_
  · intro _ r
    obtain ⟨log, outcome⟩ := r
    cases outcome <;> simp [Functor.map, Reply.bind]
  · intros
    rfl
  · intro _ _ _ r next others
    obtain ⟨log, outcome⟩ := r
    cases outcome with
    | ok a =>
      show Reply.bind (Reply.bind ⟨log, .ok a⟩ next) others = _
      simp only [Bind.bind, Reply.bind]
      cases (next a).outcome <;> simp
    | error e => rfl
    | trap => rfl

/-- A value alone leaves nothing in the log. -/
@[simp] theorem log_pure (a : α) : (pure a : Reply α).log = [] := rfl

/-- A value alone is a success. -/
@[simp] theorem outcome_pure (a : α) : (pure a : Reply α).outcome = .ok a := rfl

/-- Nothing comes after an exception. -/
@[simp] theorem fail_bind (e : Exception) (next : α → Reply β) :
    (fail e >>= next) = fail e := rfl

/-- A record stands before those of the rest of the call. -/
theorem record_bind (r : Record) (next : Unit → Reply β) :
    (record r >>= next) = ⟨r :: (next ()).log, (next ()).outcome⟩ := rfl

/-- An operation that succeeds leaves nothing in the log. -/
@[simp] theorem ofOutcome_ok (a : α) : ofOutcome (.ok a) = pure a := rfl

/-- An operation that fails raises an exception. -/
@[simp] theorem ofOutcome_error (e : RangeError) :
    (ofOutcome (.error e) : Reply α) = fail (.outOfRange e) := rfl

/-- An array that is there is accepted in silence. -/
@[simp] theorem nonNull_some (argument : String) (a : α) : nonNull argument (some a) = pure a :=
  rfl

/-- A missing array raises an exception. -/
@[simp] theorem nonNull_none (argument : String) :
    (nonNull argument none : Reply α) = fail (.nullArgument argument) := rfl

end Reply

/-- The reply of a call that copies into an array of the host, which may be null. -/
structure Copied (δ : Type) extends Reply Unit where
  /-- The array after the call. -/
  dest : Option (List δ)
  deriving Repr, DecidableEq

/-- Changes an array of the host once the arguments have been accepted.  Where they are not, the
array is what it was. -/
def Reply.update {α δ : Type} (arguments : Reply α) (dest : Option (List δ))
    (change : α → Update RangeError (List δ)) : Copied δ :=
  match arguments.outcome with
  | .ok a =>
    let changed := change a
    { toReply := arguments >>= fun _ => Reply.ofOutcome changed.outcome
      dest := some changed.dest }
  | .error e => { log := arguments.log, outcome := .error e, dest }
  | .trap => { log := arguments.log, outcome := .trap, dest }

end BytePacking.Host
