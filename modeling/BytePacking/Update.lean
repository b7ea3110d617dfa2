import BytePacking.Outcome

/-!
# Operations on a destination in place

An `Update` is what an operation on a destination leaves behind: how it ended, and what the
destination holds then.  The contents are there for every ending, so that a statement about what
a failed operation leaves is a statement about a value.

`Update.checked` runs a change only after its checks have passed, and leaves the destination
alone otherwise (`checked_error`).  `overwriteEach` walks a list of sources and a list of slots
side by side and overwrites one slot from each source, as far as both reach.
-/

set_option autoImplicit false

namespace BytePacking

/-- How an operation on a destination ended, and what the destination holds then. -/
structure Update (ε δ : Type) where
  /-- How the operation ended. -/
  outcome : Outcome ε Unit
  /-- The contents of the destination after the operation. -/
  dest : δ
  deriving Repr, DecidableEq

namespace Update

variable {ε ε' α δ δ' : Type}

/-- A success that leaves `dest`. -/
def done (dest : δ) : Update ε δ := ⟨.ok (), dest⟩

/-- Puts the value of a success in the place of `old`; any other outcome keeps `old`. -/
def assign (old : δ) : Outcome ε δ → Update ε δ
  | .ok new => ⟨.ok (), new⟩
  | .error e => ⟨.error e, old⟩
  | .trap => ⟨.trap, old⟩

/-- Runs `change` on the result of a check.  Where the check fails, its error is the outcome and
the destination is what it was. -/
def checked (dest : δ) (check : Except ε α) (change : α → Update ε δ) : Update ε δ :=
  match check with
  | .ok a => change a
  | .error e => ⟨.error e, dest⟩

/-- Reads the destination of an update as part of a larger one. -/
def map (f : δ → δ') (u : Update ε δ) : Update ε δ' := ⟨u.outcome, f u.dest⟩

/-- The destination of a successful update, as the value of an outcome. -/
def result (u : Update ε δ) : Outcome ε δ :=
  match u.outcome with
  | .ok () => .ok u.dest
  | .error e => .error e
  | .trap => .trap

/-- A finished change is a success. -/
@[simp] theorem outcome_done (dest : δ) : (done dest : Update ε δ).outcome = .ok () := rfl

/-- A finished change leaves what it was asked to leave. -/
@[simp] theorem dest_done (dest : δ) : (done dest : Update ε δ).dest = dest := rfl

/-- A new value takes the place of the old one. -/
@[simp] theorem assign_ok (old new : δ) : assign old (.ok new : Outcome ε δ) = done new := rfl

/-- Where there is an error the old value stays. -/
@[simp] theorem assign_error (old : δ) (e : ε) :
    assign old (.error e) = ⟨.error e, old⟩ := rfl

/-- Where there is a trap the old value stays. -/
@[simp] theorem assign_trap (old : δ) : assign old (.trap : Outcome ε δ) = ⟨.trap, old⟩ := rfl

/-- After checks that pass the change is made. -/
@[simp] theorem checked_ok (dest : δ) (a : α) (change : α → Update ε δ) :
    checked dest (.ok a) change = change a := rfl

/-- A failed check leaves the destination as it was. -/
@[simp] theorem checked_error (dest : δ) (e : ε) (change : α → Update ε δ) :
    checked dest (.error e) change = ⟨.error e, dest⟩ := rfl

/-- How a change ends does not depend on what is made of its destination. -/
@[simp] theorem outcome_map (f : δ → δ') (u : Update ε δ) : (u.map f).outcome = u.outcome := rfl

/-- What is made of the destination is made of what the change leaves. -/
@[simp] theorem dest_map (f : δ → δ') (u : Update ε δ) : (u.map f).dest = f u.dest := rfl

/-- The result of a finished change is what it leaves. -/
@[simp] theorem result_done (dest : δ) : (done dest : Update ε δ).result = .ok dest := rfl

/-- Only a finished change has a result. -/
theorem result_eq_ok_iff {u : Update ε δ} {new : δ} : u.result = .ok new ↔ u = done new := by
  obtain ⟨outcome, dest⟩ := u
  cases outcome <;> simp [result, done]

/-- A change that succeeds has a result. -/
theorem exists_result_of_ok {u : Update ε δ} (ok : u.outcome = .ok ()) :
    ∃ new, u.result = .ok new := by
  simp [result, ok]

/-- A change is finished whatever is made of its destination. -/
theorem map_eq_done_iff {f : δ → δ'} {u : Update ε δ} {new : δ'} :
    u.map f = done new ↔ ∃ old, u = done old ∧ f old = new := by
  obtain ⟨outcome, dest⟩ := u
  simp [map, done, and_assoc]

/-- What is made of the destination is made of the result. -/
theorem result_map (f : δ → δ') (u : Update ε δ) : (u.map f).result = f <$> u.result := by
  obtain ⟨outcome, dest⟩ := u
  cases outcome <;> rfl

end Update

section Loop

variable {ε σ β : Type}

/-- Overwrites the slots one after the other, each from the source at the same position, until
either list is at its end.  A write that does not succeed ends the walk: the slots behind it keep
what they hold. -/
def overwriteEach (write : σ → β → Update ε β) : List σ → List β → Update ε (List β)
  | source :: sources, slot :: slots =>
    let first := write source slot
    match first.outcome with
    | .ok () => (overwriteEach write sources slots).map (first.dest :: ·)
    | .error e => ⟨.error e, first.dest :: slots⟩
    | .trap => ⟨.trap, first.dest :: slots⟩
  | _, slots => .done slots

/-- Without sources all slots stay. -/
@[simp] theorem overwriteEach_nil_left (write : σ → β → Update ε β) (slots : List β) :
    overwriteEach write [] slots = .done slots := rfl

/-- Without slots nothing is written. -/
@[simp] theorem overwriteEach_nil_right (write : σ → β → Update ε β) (sources : List σ) :
    overwriteEach write sources [] = .done [] := by
  cases sources <;> rfl

/-- No walk adds or removes a slot. -/
@[simp] theorem length_dest_overwriteEach (write : σ → β → Update ε β) (sources : List σ)
    (slots : List β) : (overwriteEach write sources slots).dest.length = slots.length := by
  induction sources generalizing slots with
  | nil => rfl
  | cons source sources ih =>
    cases slots with
    | nil => rfl
    | cons slot slots =>
      rw [overwriteEach]
      split <;> simp [ih]

/-- Where the write succeeds on every source and slot that meet, the walk succeeds, and it leaves
what the single writes leave followed by the slots that no source reached. -/
theorem overwriteEach_eq_done (write : σ → β → Update ε β) (new : σ → β → β)
    (sources : List σ) (slots : List β)
    (h : ∀ p ∈ sources.zip slots, write p.1 p.2 = .done (new p.1 p.2)) :
    overwriteEach write sources slots =
      .done (List.zipWith new sources slots ++ slots.drop sources.length) := by
  induction sources generalizing slots with
  | nil => simp
  | cons source sources ih =>
    cases slots with
    | nil => simp
    | cons slot slots =>
      have first : write source slot = .done (new source slot) := h (source, slot) (by simp)
      have others := ih slots fun p hp => h p (by simp [hp])
      simp [overwriteEach, first, others, Update.done, Update.map]

end Loop

end BytePacking
