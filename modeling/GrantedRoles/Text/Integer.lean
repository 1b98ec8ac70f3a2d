import GrantedRoles.Text.Digits

/-!
# Integers as text

An integer is written in decimal digits of any script, with an optional sign before them, single
underscores between them and blanks around the whole. Its digits are counted before what follows
them is looked at, and there may not be more of them than `maxDigits`.
-/

set_option autoImplicit false

namespace GrantedRoles.Text

/-- The most digits that a number may be written with. -/
def maxDigits : Nat := 4300

/-- Why a text is no integer. -/
inductive IntegerFault where
  | malformed
  | tooLong (count : Nat)
  deriving DecidableEq, Repr

/-- A blank of ASCII: a space, or a tab and what follows it up to the carriage return. -/
def isAsciiBlank (c : Char) : Bool := c = ' ' || ('\t' ≤ c && c ≤ '\r')

/-- The blanks that may stand around an integer, of all scripts. -/
def blankRanges : Ranges :=
  [0x9, 0xE, 0x20, 0x21, 0x85, 0x86, 0xA0, 0xA1, 0x1680, 0x1681, 0x2000, 0x200B, 0x2028, 0x202A,
    0x202F, 0x2030, 0x205F, 0x2060, 0x3000, 0x3001]

/-- A blank of any script. -/
def isBlank (c : Char) : Bool := blankRanges.contains c.toNat

/-- The sign at the head of a text, if it says "negative", and what follows it. -/
def takeSign : List Char → Bool × List Char
  | '-' :: rest => (true, rest)
  | '+' :: rest => (false, rest)
  | unsigned => (false, unsigned)

/-- The digits at the head of a text and what follows them. There is at least one, and an
underscore stands between two of them; `afterDigit` says that one has just been read. -/
def takeDigits (afterDigit : Bool) : List Char → Option (List Nat × List Char)
  | [] => if afterDigit then some ([], []) else none
  | c :: rest =>
      match decimalValue? c with
      | some d => (takeDigits true rest).map fun (digits, tail) => (d :: digits, tail)
      | none =>
          if !afterDigit then none
          else if c = '_' then takeDigits false rest
          else some ([], c :: rest)

/-- The integer that a text writes, for the blanks that may stand around it. -/
def readInteger (blank : Char → Bool) (text : List Char) : Except IntegerFault Int :=
  let (negative, unsigned) := takeSign (text.dropWhile blank)
  match takeDigits false unsigned with
  | none => .error .malformed
  | some (digits, tail) =>
      if maxDigits < digits.length then .error (.tooLong digits.length)
      else if tail.all blank then
        .ok (if negative then -(ofDecimals digits : Int) else ofDecimals digits)
      else .error .malformed

end GrantedRoles.Text
