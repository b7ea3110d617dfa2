import BytePacking.Host.Exception
import BytePacking.Proofs.Messages

/-!
# Exceptions and their texts

The host sees the class and the message of an exception and nothing else of it.  The message alone
is enough: with the same message, exceptions are of the same class, come from the same refusal if
they come from one, and name the same argument otherwise (`texts_identify_failures`).

The names of arguments are arbitrary texts.  They are told from one another because they stand at
the beginning of their messages, with fixed words behind them.  No name makes such a message look
like that of a refused range, whose end is a number or the word *overflows* and never *is null*
(`Exception.message_nullArgument_ne`).
-/

set_option autoImplicit false

namespace BytePacking.Host

/-- The name of one class does not begin with that of the other. -/
theorem HostClass.prefixFree_name : PrefixFree name := by
  intro c c' within
  cases c <;> cases c' <;> simp [name] at within ⊢

namespace Exception

/-- Messages of the two classes differ in their last character. -/
theorem message_nullArgument_ne (argument : String) (error : RangeError) :
    (nullArgument argument).message ≠ (outOfRange error).message := by
  intro same
  have isNull : EndsIn (· = 'l') (nullArgument argument).message :=
    EndsIn.append_left argument ⟨'l', by decide, rfl⟩
  rw [same] at isNull
  obtain ⟨c, last, rfl⟩ := isNull
  obtain ⟨c', last', kind⟩ := error.endsIn_message
  obtain rfl : 'l' = c' := Option.some.inj (last.symm.trans last')
  revert kind
  decide

/-- Exceptions with the same message are the same. -/
theorem message_inj {x y : Exception} : x.message = y.message ↔ x = y := by
  constructor
  · intro same
    cases x with
    | nullArgument argument =>
      cases y with
      | nullArgument argument' => exact congrArg _ ((String.append_left_inj _).1 same)
      | outOfRange error => exact absurd same (message_nullArgument_ne argument error)
    | outOfRange error =>
      cases y with
      | nullArgument argument => exact absurd same.symm (message_nullArgument_ne argument error)
      | outOfRange error' => exact congrArg _ (RangeError.message_inj.1 same)
  · rintro rfl
    rfl

/-- What an exception shows identifies it. -/
theorem display_inj {x y : Exception} : x.display = y.display ↔ x = y := by
  constructor
  · intro same
    rw [display, display, String.append_assoc, String.append_assoc,
      HostClass.prefixFree_name.append_inj, String.append_right_inj] at same
    exact message_inj.1 same.2
  · rintro rfl
    rfl

end Exception

/-- No information is lost in a text.

Range errors with the same message are the same.  Exceptions of the host are the same if they agree
in class, message and source; they do so as soon as their messages are equal, or the texts in which
the name of the class comes before the message.  So different range errors are raised as different
exceptions, and a missing argument, whatever its name is, never has the message of a refused
range. -/
theorem texts_identify_failures :
    (∀ e e' : RangeError, e.message = e'.message ↔ e = e') ∧
    (∀ x y : Exception,
      [x = y, (x.hostClass, x.message, x.source) = (y.hostClass, y.message, y.source),
        x.message = y.message, x.display = y.display].TFAE) ∧
    Function.Injective Exception.outOfRange ∧
    ∀ (argument : String) (e : RangeError),
      (Exception.nullArgument argument).message ≠ (Exception.outOfRange e).message := by
  refine ⟨fun e e' => RangeError.message_inj, ?_, ?_, Exception.message_nullArgument_ne⟩
  · intro x y
    tfae_have 1 → 2 := by
      rintro rfl
      rfl
    tfae_have 2 → 3 := fun same => congrArg (·.2.1) same
    tfae_have 3 → 4 := fun same => Exception.display_inj.2 (Exception.message_inj.1 same)
    tfae_have 4 → 1 := Exception.display_inj.1
    tfae_finish
  · intro e e' same
    exact RangeError.message_inj.1 (congrArg Exception.message same)

/-- The digits of two numbers are kept apart by the words between them. -/
example :
    (Exception.outOfRange ⟨.bytes, .pastEnd 1 23⟩).message =
        "byte range out of bounds: range ends at 1 but capacity is 23" ∧
      (Exception.outOfRange ⟨.bytes, .pastEnd 12 3⟩).message =
        "byte range out of bounds: range ends at 12 but capacity is 3" := by
  decide

end BytePacking.Host
