/-!
# Binary64 numbers

A number with a fraction is kept as the 64 bits of its IEEE 754 form. A finite one is exactly
`± significand · 2 ^ power`, and every comparison here is made on those integers.
-/

set_option autoImplicit false

namespace GrantedRoles.Number

/-- A power of two. -/
def twoTo (n : Nat) : Nat := Nat.pow 2 n

/-- The bits of a binary64 number: sign, eleven of exponent, fifty-two of fraction. -/
structure Binary64 where
  bits : UInt64
  deriving DecidableEq

namespace Binary64

/-- The sign bit is set; zero has a sign too. -/
def negative (x : Binary64) : Bool := twoTo 63 ≤ x.bits.toNat

/-- The eleven bits of the exponent. -/
def exponent (x : Binary64) : Nat := x.bits.toNat / twoTo 52 % twoTo 11

/-- The fifty-two bits of the fraction. -/
def fraction (x : Binary64) : Nat := x.bits.toNat % twoTo 52

/-- Neither infinite nor a NaN. -/
def isFinite (x : Binary64) : Bool := x.exponent != 2047

/-- Not a number. -/
def isNaN (x : Binary64) : Bool := x.exponent == 2047 && x.fraction != 0

/-- The integer whose product with a power of two is the magnitude of a finite number. -/
def significand (x : Binary64) : Nat :=
  if x.exponent = 0 then x.fraction else x.fraction + twoTo 52

/-- The exponent of that power of two. -/
def power (x : Binary64) : Int :=
  if x.exponent = 0 then -1074 else (x.exponent : Int) - 1075

/-- The signed significand. -/
def signed (x : Binary64) : Int :=
  if x.negative then -(x.significand : Int) else x.significand

/-- Finite and zero, of either sign. -/
def isZero (x : Binary64) : Bool := x.isFinite && x.significand == 0

/-- The integer part of a finite number, toward zero. -/
def truncate (x : Binary64) : Int :=
  if 0 ≤ x.power then x.signed * twoTo x.power.toNat
  else x.signed.tdiv (twoTo (-x.power).toNat)

/-- The integer that a finite number is, if it is one. -/
def toInt? (x : Binary64) : Option Int :=
  if x.isFinite && (0 ≤ x.power || x.significand % twoTo (-x.power).toNat == 0) then
    some x.truncate
  else none

/-- Equal as numbers: the zeros are equal, and a NaN differs from everything. -/
def same (x y : Binary64) : Bool :=
  !x.isNaN && !y.isNaN && (x == y || x.isZero && y.isZero)

end Binary64

end GrantedRoles.Number
