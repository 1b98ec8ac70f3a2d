import GrantedRoles.Text.PropertyTables

/-!
# Digits

A digit is any character with a digit value; a decimal digit is one of ten in a row that starts
at a zero, and only decimal digits write numbers.
-/

set_option autoImplicit false

namespace GrantedRoles.Text

/-- Has a digit value: a decimal digit, a superscript, a circled digit. -/
def isDigit (c : Char) : Bool := digitRanges.contains c.toNat

/-- The value of a decimal digit of any script. -/
def decimalValue? (c : Char) : Option Nat :=
  (decimalZeros.find? fun first => first ≤ c.toNat && c.toNat ≤ first + 9).map (c.toNat - ·)

/-- A text of decimal digits, as the values of its digits. -/
def decimalValues? : List Char → Option (List Nat)
  | [] => some []
  | c :: rest =>
      match decimalValue? c, decimalValues? rest with
      | some d, some ds => some (d :: ds)
      | _, _ => none

/-- The number that decimal digits write, most significant first. -/
def ofDecimals (digits : List Nat) : Nat := digits.foldl (fun n d => n * 10 + d) 0

/-- Every row of decimal digits starts among the digits, and none of its ten leaves them. -/
theorem isDigit_row : ∀ first ∈ decimalZeros, digitRanges.contains first = true ∧
    ∀ change ∈ digitRanges, change ≤ first ∨ first + 10 ≤ change := by
  decide +kernel

/-- A decimal digit is a digit; a superscript, which is one too, is no decimal digit. -/
theorem isDigit_of_isSome_decimalValue? {c : Char} (h : (decimalValue? c).isSome) :
    isDigit c = true := by
  rw [decimalValue?, Option.isSome_map, List.find?_isSome] at h
  obtain ⟨first, hmem, hrow⟩ := h
  simp only [Bool.and_eq_true, decide_eq_true_eq] at hrow
  obtain ⟨hfirst, hkept⟩ := isDigit_row first hmem
  rw [isDigit, ← hfirst]
  refine Ranges.contains_congr fun change hchange => ?_
  have := hkept change hchange
  omega

/-- A text writes decimal digits when each of its characters does. -/
theorem isSome_decimalValues?_iff {cs : List Char} :
    (decimalValues? cs).isSome ↔ ∀ c ∈ cs, (decimalValue? c).isSome := by
  induction cs with
  | nil => simp [decimalValues?]
  | cons c rest ih =>
    rw [List.forall_mem_cons, ← ih, decimalValues?]
    cases decimalValue? c <;> cases decimalValues? rest <;> simp

end GrantedRoles.Text
