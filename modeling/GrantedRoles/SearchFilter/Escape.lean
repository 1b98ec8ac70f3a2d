import GrantedRoles.Failure

/-!
# Escaping filter parameters

A parameter becomes part of a filter as plain text: the characters that mean something in a filter
(parentheses, asterisk, backslash, NUL) are written as a backslash and two hexadecimal digits, and
octets that are no UTF-8 text are written so one by one.
-/

set_option autoImplicit false

namespace GrantedRoles.SearchFilter

open Text

/-- One character of a parameter inside a filter. -/
def escapeChar (c : Char) : List Char :=
  if c = '\\' then ['\\', '5', 'c']
  else if c = '*' then ['\\', '2', 'a']
  else if c = '(' then ['\\', '2', '8']
  else if c = ')' then ['\\', '2', '9']
  else if c = '\x00' then ['\\', '0', '0']
  else [c]

/-- A text inside a filter. -/
def escapeText (s : String) : String := String.ofList (s.toList.flatMap escapeChar)

/-- Octets inside a filter, each by its number. -/
def escapeOctets (octets : List UInt8) : String :=
  String.ofList (octets.flatMap fun octet => '\\' :: hexOctet octet)

/-- The number of an item in a sequence of octets given as numbers. A text or an octet string
writes one; of octets that do not, only the beginning is quoted. -/
def octetNumber : Value → Except Failure Int
  | .bool b => .ok (if b then 1 else 0)
  | .int n => .ok n
  | .real x =>
      if x.isFinite then .ok x.truncate
      else .error (if x.isNaN then .value .notANumber else .range .infiniteInteger)
  | .text s => (readInteger isBlank s.toList).mapError (Failure.ofInteger (.text s))
  | .scope s => (readInteger isBlank s.word.toList).mapError (Failure.ofInteger (.scope s))
  | .octets os _ =>
      (readInteger isAsciiBlank (ofLatin1 os).toList).mapError
        (Failure.ofInteger (.octets (os.take 200) false))
  | _ => .error .illTyped

/-- A number in hexadecimal, in two places at least. -/
def hexNumber (n : Int) : List Char :=
  let digits := Nat.toDigits 16 n.natAbs
  if n < 0 then '-' :: digits
  else if digits.length < 2 then '0' :: digits
  else digits

/-- Numbers inside a filter, each after a backslash. -/
def escapeNumbers : List Value → Except Failure (List Char)
  | [] => .ok []
  | item :: rest =>
      match octetNumber item with
      | .error failure => .error failure
      | .ok n => (escapeNumbers rest).map fun escaped => '\\' :: (hexNumber n ++ escaped)

/-- A parameter inside a filter. -/
def escape : Value → Except Failure String
  | .null => .ok ""
  | .text s => .ok (escapeText s)
  | .scope s => .ok (escapeText s.word)
  | .octets octets _ =>
      match ofUtf8? octets with
      | some s => .ok (escapeText s)
      | none => .ok (escapeOctets octets)
  | .list items => (escapeNumbers items).map String.ofList
  | .tuple items => (escapeNumbers items).map String.ofList
  | .dict entries => (escapeNumbers (entries.map fun entry => .text entry.1)).map String.ofList
  | number => if number.isWritable then .ok number.display else .error .unwritable

/-- Every parameter inside a filter, or the failure of the first that cannot be. -/
def escapeAll : List Value → Except Failure (List String)
  | [] => .ok []
  | param :: rest =>
      match escape param with
      | .error failure => .error failure
      | .ok escaped => (escapeAll rest).map (escaped :: ·)

@[simp] theorem escape_text (s : String) : escape (.text s) = .ok (escapeText s) := rfl

theorem escapeAll_texts (params : List String) :
    escapeAll (params.map .text) = .ok (params.map escapeText) := by
  induction params with
  | nil => rfl
  | cons s rest ih => simp [escapeAll, ih, Except.map]

end GrantedRoles.SearchFilter
