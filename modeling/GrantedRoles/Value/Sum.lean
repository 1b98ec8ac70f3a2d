import GrantedRoles.Failure
import GrantedRoles.Number.Rounding
import GrantedRoles.Text.Casing

/-!
# Sums of values

What a prefix and a name of any types make together: the sum of two numbers, or one text, octet
string or sequence followed by another. Values of different kinds have no sum. A whole number
becomes a number with a fraction beside one, unless it is too large for that.
-/

set_option autoImplicit false

namespace GrantedRoles.Value

open Number Text

/-- A number as one with a fraction. -/
def toReal : Value → Except Failure Binary64
  | .real x => .ok x
  | v =>
      match v.asInt? with
      | some n =>
          match Binary64.ofInt? n with
          | some x => .ok x
          | none => .error (.range .hugeReal)
      | none => .error .illTyped

/-- Two texts one after the other, or the sum of two whole numbers. -/
def plusAtom (v w : Value) : Except Failure Value :=
  match v.asText?, w.asText? with
  | some s, some t => .ok (.text (s ++ t))
  | _, _ =>
      match v.asInt?, w.asInt? with
      | some m, some n => .ok (.int (m + n))
      | _, _ => .error .illTyped

/-- The sum of two values; octets can grow if those that stand first can. -/
def plus (v w : Value) : Except Failure Value :=
  match v, w with
  | .list items, .list others => .ok (.list (items ++ others))
  | .tuple items, .tuple others => .ok (.tuple (items ++ others))
  | .octets os growable, .octets ps _ => .ok (.octets (os ++ ps) growable)
  | .real x, other => other.toReal.map fun y => .real (x.add y)
  | other, .real y => other.toReal.map fun x => .real (x.add y)
  | v, w => plusAtom v w

/-- An octet in upper case, as the ASCII letter that it is. -/
def upperOctet (octet : UInt8) : UInt8 := if 97 ≤ octet && octet ≤ 122 then octet - 32 else octet

/-- A value in upper case; only texts and octets have one. -/
def uppercase : Value → Except Failure Value
  | .octets os growable => .ok (.octets (os.map upperOctet) growable)
  | v =>
      match v.asText? with
      | some s => .ok (.text (upper s))
      | none => .error .noSuchOperation

@[simp] theorem plus_text (s t : String) : plus (.text s) (.text t) = .ok (.text (s ++ t)) := rfl

@[simp] theorem uppercase_text (s : String) : uppercase (.text s) = .ok (.text (upper s)) := rfl

end GrantedRoles.Value
