import BytePacking.RangeError
import Mathlib

/-!
# Errors and their messages

The message of an error is all that most of its readers see.  Nothing is lost in it: errors with the
same message are the same error (`RangeError.message_inj`).

A message is put together from fixed words and decimal numbers.  Whatever follows them, the opening
words tell the regions apart, and then the causes, because none of them begins with another
(`PrefixFree`).  A number is told from the words behind it because it ends where the digits end
(`decimal_append_inj`).
-/

set_option autoImplicit false

namespace BytePacking

/-! ## Texts that begin with fixed words -/

section Openings

variable {ι : Type}

/-- No text of a family begins with another text of it. -/
def PrefixFree (opening : ι → String) : Prop :=
  ∀ i j, (opening i).toList <+: (opening j).toList → opening i = opening j

/-- Two texts that begin with texts of such a family are equal only if they begin with the same one
and go on in the same way. -/
theorem PrefixFree.append_inj {opening : ι → String} (free : PrefixFree opening) {i j : ι}
    {s t : String} : opening i ++ s = opening j ++ t ↔ opening i = opening j ∧ s = t := by
  constructor
  · intro same
    have texts : (opening i).toList ++ s.toList = (opening j).toList ++ t.toList := by
      rw [← String.toList_append, ← String.toList_append, same]
    -- Both openings are the beginning of one text, so that one of them begins with the other.
    have openings : opening i = opening j := by
      have first : (opening i).toList <+: (opening j).toList ++ t.toList := ⟨s.toList, texts⟩
      rcases List.prefix_or_prefix_of_prefix first (List.prefix_append ..) with within | within
      · exact free i j within
      · exact (free j i within).symm
    rw [openings] at same
    exact ⟨openings, (String.append_right_inj _).1 same⟩
  · rintro ⟨openings, rfl⟩
    rw [openings]

end Openings

/-! ## The last character of a text -/

section Ends

/-- The text ends with a character of some kind. -/
def EndsIn (kind : Char → Prop) (text : String) : Prop :=
  ∃ c, text.toList.getLast? = some c ∧ kind c

variable {kind other : Char → Prop} {text : String}

/-- A text that ends in a character of one kind ends in one of every wider kind. -/
theorem EndsIn.mono (h : EndsIn kind text) (weaker : ∀ c, kind c → other c) :
    EndsIn other text := by
  obtain ⟨c, last, ofKind⟩ := h
  exact ⟨c, last, weaker c ofKind⟩

/-- What stands before a text does not change its end. -/
theorem EndsIn.append_left (before : String) (h : EndsIn kind text) :
    EndsIn kind (before ++ text) := by
  obtain ⟨c, last, ofKind⟩ := h
  refine ⟨c, ?_, ofKind⟩
  rw [String.toList_append, List.getLast?_append, last, Option.some_or]

end Ends

/-! ## Numbers in a text -/

section Numbers

/-- A number is written with digits only. -/
theorem isDigit_of_mem_decimal {n : Nat} {c : Char} (h : c ∈ (toString n).toList) :
    c.isDigit = true := by
  rw [Nat.toString_eq_repr, Nat.toList_repr] at h
  exact Nat.isDigit_of_mem_toDigits (by decide) (by decide) h

/-- A number ends in a digit. -/
theorem endsIn_decimal (n : Nat) : EndsIn (·.isDigit = true) (toString n) := by
  have digits : (toString n).toList ≠ [] := by
    rw [Nat.toString_eq_repr, Nat.toList_repr]
    exact Nat.toDigits_ne_nil
  exact ⟨_, List.getLast?_eq_some_getLast digits,
    isDigit_of_mem_decimal (List.getLast_mem digits)⟩

/-- A negative number ends in a digit as well. -/
theorem endsIn_signedDecimal (n : Int) : EndsIn (·.isDigit = true) (toString n) := by
  cases n with
  | ofNat n => exact endsIn_decimal n
  | negSucc n => exact (endsIn_decimal (n + 1)).append_left "-"

/-- Where a number is followed by words that do not begin with a digit, both it and what follows can
be read off the text. -/
theorem decimal_append_inj {m n : Nat} {words s t : String} {c : Char}
    (first : words.toList.head? = some c) (delimits : ¬ c.isDigit = true) :
    toString m ++ (words ++ s) = toString n ++ (words ++ t) ↔ m = n ∧ s = t := by
  constructor
  · intro same
    obtain ⟨cs, split⟩ := List.head?_eq_some_iff.1 first
    have digits (k : Nat) (rest : String) :
        (toString k ++ (words ++ rest)).toList.takeWhile Char.isDigit = (toString k).toList := by
      rw [String.toList_append, String.toList_append, split, List.cons_append,
        List.takeWhile_append_of_pos fun _ => isDigit_of_mem_decimal,
        List.takeWhile_cons_of_neg delimits, List.append_nil]
    have numbers : toString m = toString n := by
      apply String.toList_injective
      rw [← digits m s, same, digits n t]
    rw [numbers, String.append_right_inj, String.append_right_inj] at same
    exact ⟨Nat.repr_injective numbers, same⟩
  · rintro ⟨rfl, rfl⟩
    rfl

end Numbers

/-! ## The messages of range errors -/

/-- The name of one region does not begin with that of the other. -/
theorem Region.prefixFree_message : PrefixFree Region.message := by
  intro r r' within
  cases r <;> cases r' <;> simp [message] at within ⊢

/-- The name of a region identifies it. -/
theorem Region.message_inj {r r' : Region} : r.message = r'.message ↔ r = r' := by
  cases r <;> cases r' <;> simp [message]

namespace Cause

/-- The words with which the message of a cause begins. -/
def opening : Cause → String
  | negativeStart _ => "negative start "
  | negativeLength _ => "negative length "
  | overflow => "range end overflows"
  | pastEnd _ _ => "range ends at "

/-- The part of the message behind the opening. -/
def numbers : Cause → String
  | negativeStart value | negativeLength value => toString value
  | overflow => ""
  | pastEnd stop capacity => toString stop ++ (" but capacity is " ++ toString capacity)

/-- A message is fixed words and then numbers. -/
theorem message_eq_opening_append (c : Cause) : c.message = c.opening ++ c.numbers := by
  cases c with
  | negativeStart value => rfl
  | negativeLength value => rfl
  | overflow => exact String.append_empty.symm
  | pastEnd stop capacity =>
    exact String.append_assoc.trans String.append_assoc

/-- The words of one cause do not begin with those of another. -/
theorem prefixFree_opening : PrefixFree opening := by
  intro c c' within
  cases c <;> cases c' <;> simp [opening] at within ⊢

/-- Causes with the same message are the same. -/
theorem message_inj {c c' : Cause} : c.message = c'.message ↔ c = c' := by
  constructor
  · intro same
    rw [message_eq_opening_append, message_eq_opening_append,
      prefixFree_opening.append_inj] at same
    obtain ⟨openings, same⟩ := same
    -- The opening belongs to one kind of cause only; what is left are the numbers of that kind.
    cases c with
    | negativeStart value =>
      cases c' with
      | negativeStart value' => exact congrArg _ (Int.repr_injective same)
      | _ => simp [opening] at openings
    | negativeLength value =>
      cases c' with
      | negativeLength value' => exact congrArg _ (Int.repr_injective same)
      | _ => simp [opening] at openings
    | overflow =>
      cases c' with
      | overflow => rfl
      | _ => simp [opening] at openings
    | pastEnd stop capacity =>
      cases c' with
      | pastEnd stop' capacity' =>
        obtain ⟨rfl, capacities⟩ := (decimal_append_inj rfl (by decide)).1 same
        exact congrArg _ (Nat.repr_injective capacities)
      | _ => simp [opening] at openings
  · rintro rfl
    rfl

/-- The message of a cause ends with a number or with the word *overflows*. -/
theorem endsIn_message (c : Cause) :
    EndsIn (fun last => last.isDigit = true ∨ last = 's') c.message := by
  cases c with
  | negativeStart value =>
    exact ((endsIn_signedDecimal value).mono fun _ => .inl).append_left _
  | negativeLength value =>
    exact ((endsIn_signedDecimal value).mono fun _ => .inl).append_left _
  | overflow => exact ⟨'s', by decide, .inr rfl⟩
  | pastEnd stop capacity =>
    exact ((endsIn_decimal capacity).mono fun _ => .inl).append_left _

end Cause

namespace RangeError

/-- Errors with the same message are the same. -/
theorem message_inj {e e' : RangeError} : e.message = e'.message ↔ e = e' := by
  obtain ⟨region, cause⟩ := e
  obtain ⟨region', cause'⟩ := e'
  simp only [message, String.append_assoc, Region.prefixFree_message.append_inj,
    String.append_right_inj, Region.message_inj, Cause.message_inj, mk.injEq]

/-- Messages end in a digit, or in the last letter of the one cause that has no numbers. -/
theorem endsIn_message (e : RangeError) :
    EndsIn (fun last => last.isDigit = true ∨ last = 's') e.message :=
  e.cause.endsIn_message.append_left _

end RangeError

end BytePacking
