import GrantedRoles.Number.Binary64

/-!
# Rounding and sums

A number `± n · 2 ^ p` becomes the nearest binary64 number, and halfway the even one. The unit of
the result is chosen first, so that at most fifty-three bits stand before it; rounding up to a
power of two then carries into the exponent by itself. Sums of finite numbers are exact integers
before they are rounded.
-/

set_option autoImplicit false

namespace GrantedRoles.Number

namespace Binary64

/-- Not a number, as an operation makes it. -/
def nan : Binary64 := ⟨0x7ff8000000000000⟩

/-- The number of a sign and of the other sixty-three bits; beyond the largest it is infinite. -/
def ofMagnitude (negative : Bool) (magnitude : Nat) : Binary64 :=
  ⟨UInt64.ofNat ((if negative then twoTo 63 else 0) + min magnitude (2047 * twoTo 52))⟩

/-- `n · 2 ^ p` in whole units of `2 ^ q`: the nearest number of them, and halfway the even one. -/
def wholeUnits (n : Nat) (p q : Int) : Nat :=
  if q ≤ p then n * twoTo (p - q).toNat
  else
    let unit := twoTo (q - p).toNat
    let rest := 2 * (n % unit)
    let below := n / unit
    if unit < rest ∨ (rest = unit ∧ below % 2 = 1) then below + 1 else below

/-- The number nearest to `± n · 2 ^ p`. -/
def nearest (negative : Bool) (n : Nat) (p : Int) : Binary64 :=
  if n = 0 then ofMagnitude negative 0
  else
    let q := max (p + n.log2 - 52) (-1074)
    ofMagnitude negative ((q + 1074).toNat * twoTo 52 + wholeUnits n p q)

/-- The number nearest to an integer, unless that is infinite. -/
def ofInt? (n : Int) : Option Binary64 :=
  let x := nearest (n < 0) n.natAbs 0
  if x.isFinite then some x else none

/-- The sum of two numbers. A zero sum is negative only if both zeros are, and opposite infinities
have no sum. -/
def add (x y : Binary64) : Binary64 :=
  if x.isNaN || y.isNaN then nan
  else if !x.isFinite then if !y.isFinite && x.negative != y.negative then nan else x
  else if !y.isFinite then y
  else
    let p := min x.power y.power
    let total := x.signed * twoTo (x.power - p).toNat + y.signed * twoTo (y.power - p).toNat
    nearest (if total = 0 then x.negative && y.negative else total < 0) total.natAbs p

end Binary64

end GrantedRoles.Number
