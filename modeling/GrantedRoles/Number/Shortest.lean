import GrantedRoles.Number.Binary64

/-!
# Shortest decimal text

The decimal text of a binary64 number has the fewest digits that read back as the same number,
and of those the nearest. The search is exact: the numbers that read back as `m · 2 ^ q` form an
interval, and for one digit, two digits, and so on the two neighbours of `m · 2 ^ q` on that
decimal grid are tested against it. Positional notation is used while the point stands at most
sixteen digits to the right of the first digit or three zeros to its left.
-/

set_option autoImplicit false

namespace GrantedRoles.Number

/-- A decimal `digits · 10 ^ scale`. -/
structure Decimal where
  digits : Nat
  scale : Int

/-- `n · base ^ e`, cut to an integer if `e` is negative, over the common denominator that the
second component gives for all negative exponents. -/
def scaled (n base : Nat) (e : Int) : Nat × Nat :=
  if 0 ≤ e then (n * Nat.pow base e.toNat, 1) else (n, Nat.pow base (-e).toNat)

/-- `a · 2 ^ p` compared with `b · 10 ^ k`. -/
def comparePowers (a : Nat) (p : Int) (b : Nat) (k : Int) : Ordering :=
  let left := scaled a 2 p
  let right := scaled b 10 k
  compare (left.1 * right.2) (right.1 * left.2)

/-- The interval of reals that read back as `m · 2 ^ q`, on quarters of its unit. -/
structure Reading where
  low : Nat
  middle : Nat
  high : Nat
  power : Int
  closed : Bool

namespace Reading

/-- The reals nearest to a positive finite number; below a power of two they are half as far. -/
def ofBinary64 (x : Binary64) : Reading :=
  let m := x.significand
  { low := if x.fraction = 0 && 1 < x.exponent then 4 * m - 1 else 4 * m - 2
    middle := 4 * m
    high := 4 * m + 2
    power := x.power - 2
    closed := m % 2 == 0 }

/-- A decimal lies in the interval. -/
def contains (r : Reading) (d : Nat) (k : Int) : Bool :=
  match comparePowers r.low r.power d k, comparePowers r.high r.power d k with
  | .lt, .gt => true
  | .eq, _ => r.closed
  | _, .eq => r.closed
  | _, _ => false

/-- The largest multiple of `10 ^ k` that is not above the number. -/
def floorAt (r : Reading) (k : Int) : Nat :=
  let value := scaled r.middle 2 r.power
  let unit := scaled 1 10 k
  value.1 * unit.2 / (value.2 * unit.1)

/-- The lower neighbour is the nearer one; halfway, the even one is. -/
def lowerIsNearer (r : Reading) (d : Nat) (k : Int) : Bool :=
  match comparePowers (2 * r.middle) r.power (2 * d + 1) k with
  | .lt => true
  | .gt => false
  | .eq => d % 2 == 0

/-- The neighbour on the grid of `10 ^ k` that reads back, the nearer one if both do. -/
def onGrid? (r : Reading) (k : Int) : Option Decimal :=
  let d := r.floorAt k
  match r.contains d k, r.contains (d + 1) k with
  | true, true => some ⟨if r.lowerIsNearer d k then d else d + 1, k⟩
  | true, false => some ⟨d, k⟩
  | false, true => some ⟨d + 1, k⟩
  | false, false => none

/-- The first grid with a hit, from the coarse to the fine; `top` is the exponent of the first. -/
def search (r : Reading) (top : Int) : Nat → Decimal
  | 0 => ⟨r.floorAt top, top⟩
  | steps + 1 => (r.onGrid? top).getD (search r (top - 1) steps)

/-- The exponent `e` with `10 ^ (e - 1) ≤ m · 2 ^ q < 10 ^ e`. -/
def magnitude (r : Reading) : Int :=
  let value := scaled r.middle 2 r.power
  if value.2 ≤ value.1 then (Nat.toDigits 10 (value.1 / value.2)).length
  else
    let guess : Int := -((Nat.toDigits 10 (value.2 / value.1)).length : Int)
    if comparePowers r.middle r.power 1 (guess + 1) = .lt then guess + 1 else guess + 2

/-- The fewest digits that read back; seventeen always do. -/
def shortest (r : Reading) : Decimal := r.search (r.magnitude - 1) 17

end Reading

/-- Drops the trailing zeros of a decimal; `fuel` bounds their number. -/
def Decimal.trim (d : Decimal) : Nat → Decimal
  | 0 => d
  | fuel + 1 =>
      if d.digits ≠ 0 ∧ d.digits % 10 = 0 then Decimal.trim ⟨d.digits / 10, d.scale + 1⟩ fuel else d

/-- Sign and at least two digits, as an exponent is written. -/
def exponentText (e : Int) : String :=
  let magnitude := toString e.natAbs
  (if e < 0 then "e-" else "e+") ++ (if magnitude.length < 2 then "0" ++ magnitude else magnitude)

/-- So many zeros. -/
def zeros (n : Nat) : List Char := List.replicate n '0'

/-- A decimal as text: positional when the point stands from three zeros before the digits to
sixteen digits after the first, otherwise with an exponent. -/
def Decimal.text (d : Decimal) : String :=
  let digits := Nat.toDigits 10 d.digits
  let point : Int := digits.length + d.scale
  if -4 < point ∧ point ≤ 16 then
    if point ≤ 0 then String.ofList ('0' :: '.' :: zeros (-point).toNat ++ digits)
    else if digits.length ≤ point.toNat then
      String.ofList (digits ++ zeros (point.toNat - digits.length) ++ ['.', '0'])
    else String.ofList (digits.take point.toNat ++ '.' :: digits.drop point.toNat)
  else
    let mantissa :=
      match digits with
      | first :: next :: rest => String.ofList (first :: '.' :: next :: rest)
      | short => String.ofList short
    mantissa ++ exponentText (point - 1)

/-- The text of a number, with at least one digit after the point of a whole one. -/
def Binary64.text (x : Binary64) : String :=
  if x.isNaN then "nan"
  else
    let magnitude :=
      if !x.isFinite then "inf"
      else if x.significand = 0 then "0.0"
      else ((Reading.ofBinary64 x).shortest.trim 17).text
    if x.negative then "-" ++ magnitude else magnitude

end GrantedRoles.Number
