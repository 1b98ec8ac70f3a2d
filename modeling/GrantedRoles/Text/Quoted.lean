import GrantedRoles.Text.PropertyTables

/-!
# Quoted literals

How diagnostics write a text or an octet string: between single quotes, or between double quotes
if it holds a single quote and no double quote, with backslash escapes for the quote, for the
backslash and for what cannot be printed.
-/

set_option autoImplicit false

namespace GrantedRoles.Text

/-- The lower case hexadecimal digit of a number below sixteen. -/
def hexDigit (n : Nat) : Char :=
  if n < 10 then Char.ofNat ('0'.toNat + n) else Char.ofNat ('a'.toNat + (n - 10))

/-- The last `width` hexadecimal digits of a number. -/
def hexDigits : Nat → Nat → List Char
  | 0, _ => []
  | width + 1, n => hexDigits width (n / 16) ++ [hexDigit (n % 16)]

/-- Two hexadecimal digits for an octet. -/
def hexOctet (octet : UInt8) : List Char := hexDigits 2 octet.toNat

/-- Shown as itself in a literal. -/
def isPrintable (c : Char) : Bool := !unprintableRanges.contains c.toNat

/-- The quote for a text with these characters. -/
def quoteFor (cs : List Char) : Char :=
  if cs.contains '\'' && !cs.contains '"' then '"' else '\''

/-- Escapes that literals of texts and of octets share. -/
def escapedControl? (quote c : Char) : Option (List Char) :=
  if c = quote || c = '\\' then some ['\\', c]
  else if c = '\n' then some ['\\', 'n']
  else if c = '\r' then some ['\\', 'r']
  else if c = '\t' then some ['\\', 't']
  else none

/-- One character inside a text literal. -/
def quotedChar (quote c : Char) : List Char :=
  match escapedControl? quote c with
  | some escaped => escaped
  | none =>
      if isPrintable c then [c]
      else if c.toNat < 0x100 then '\\' :: 'x' :: hexDigits 2 c.toNat
      else if c.toNat < 0x10000 then '\\' :: 'u' :: hexDigits 4 c.toNat
      else '\\' :: 'U' :: hexDigits 8 c.toNat

/-- A text between quotes. -/
def quotedText (s : String) : String :=
  let quote := quoteFor s.toList
  String.ofList (quote :: (s.toList.flatMap (quotedChar quote) ++ [quote]))

/-- One octet inside an octet literal: ASCII as itself, the rest by number. -/
def quotedOctet (quote : Char) (octet : UInt8) : List Char :=
  let c := Char.ofNat octet.toNat
  match escapedControl? quote c with
  | some escaped => escaped
  | none => if 32 ≤ octet && octet < 127 then [c] else '\\' :: 'x' :: hexOctet octet

/-- Octets between quotes, marked with `b`; `escaped` is the quote to escape, if it is not the one
around them. -/
def quotedOctetsWith (escaped : Option Char) (octets : List UInt8) : String :=
  let quote := quoteFor (octets.map fun octet => Char.ofNat octet.toNat)
  String.ofList
    ('b' :: quote :: (octets.flatMap (quotedOctet (escaped.getD quote)) ++ [quote]))

/-- Octets between quotes. -/
def quotedOctets (octets : List UInt8) : String := quotedOctetsWith none octets

/-- Growable octets between quotes, named as such: a single quote in them is always escaped. -/
def quotedGrowable (octets : List UInt8) : String :=
  "bytearray(" ++ quotedOctetsWith (some '\'') octets ++ ")"

end GrantedRoles.Text
