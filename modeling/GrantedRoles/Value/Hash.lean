import GrantedRoles.Value

/-!
# Hashes of values

Two keys have one hash exactly when `hashForm` makes the same value of them. Numbers hash by what
they are worth modulo a prime, texts and octets by the octets that store them, and a tuple by the
hashes of its items. Equal keys have one hash; the reverse does not hold.
-/

set_option autoImplicit false

namespace GrantedRoles.Value

open Number

/-- Numbers are taken modulo this prime. -/
def hashModulus : Nat := twoTo 61 - 1

/-- The hash of a sign and a remainder; minus one is no hash. -/
def signedHash (negative : Bool) (remainder : Nat) : Int :=
  if negative then if remainder = 1 then -2 else -(remainder : Int) else remainder

/-- The hash of an integer. -/
def integerHash (n : Int) : Int := signedHash (n < 0) (n.natAbs % hashModulus)

/-- The hash of a finite number with a fraction: two to the sixty-first leaves the remainder one,
so only the remainder of the exponent counts. -/
def realHash (x : Binary64) : Int :=
  signedHash x.negative (x.significand * twoTo (x.power.emod 61).toNat % hashModulus)

/-- The hash of an infinity. -/
def infinityHash (negative : Bool) : Int := if negative then -314159 else 314159

/-- The octets that store one character in a width, the lowest first. -/
def storedChar (width : Nat) (c : Char) : List UInt8 :=
  (List.range width).map fun place => UInt8.ofNat (c.toNat / Nat.pow 256 place)

/-- The octets that store a text: each character in one, two or four of them, as many as the
largest needs. -/
def storedText (cs : List Char) : List UInt8 :=
  let width :=
    if cs.all (·.toNat < 0x100) then 1 else if cs.all (·.toNat < 0x10000) then 2 else 4
  cs.flatMap (storedChar width)

/-- The hash of octets, of which there may be none. -/
def octetsHash (os : List UInt8) : Value := if os.isEmpty then int 0 else octets os false

mutual

/-- What the hash of a key depends on. -/
def hashForm : Value → Value
  | bool b => int (if b then 1 else 0)
  | int n => int (integerHash n)
  | real x =>
      if x.isNaN then real x
      else if x.isFinite then int (realHash x)
      else int (infinityHash x.negative)
  | text s => octetsHash (storedText s.toList)
  | octets os _ => octetsHash os
  | scope s => octetsHash (storedText s.word.toList)
  | tuple items => tuple (hashForms items)
  | other => other

/-- What the hashes of several keys depend on. -/
def hashForms : List Value → List Value
  | [] => []
  | item :: rest => hashForm item :: hashForms rest

end

/-- Two keys have one hash. -/
def sameHash (v w : Value) : Bool := v.hashForm.same w.hashForm

end GrantedRoles.Value
