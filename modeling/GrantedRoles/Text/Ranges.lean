/-!
# Sets of code points

A set of code points is the ascending list of the code points at which membership changes, so a
code point is in the set exactly when the number of changes up to it is odd.
-/

set_option autoImplicit false

namespace GrantedRoles.Text

/-- The ascending code points at which membership changes, from "outside" on. -/
abbrev Ranges := List Nat

namespace Ranges

/-- A code point is inside when an odd number of changes lie at or below it. -/
def contains : Ranges → Nat → Bool
  | [], _ => false
  | change :: rest, code => if code < change then false else !contains rest code

/-- Two code points with no change between them are on one side. -/
theorem contains_congr {ranges : Ranges} {a b : Nat}
    (h : ∀ change ∈ ranges, change ≤ a ↔ change ≤ b) : contains ranges a = contains ranges b := by
  induction ranges with
  | nil => rfl
  | cons change rest ih =>
    rw [List.forall_mem_cons] at h
    have hlt : a < change ↔ b < change := by
      rw [← Nat.not_le, ← Nat.not_le, h.1]
    simp only [contains, hlt, ih h.2]

end Ranges

end GrantedRoles.Text
