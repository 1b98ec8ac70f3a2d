import GrantedRoles.Text.CaseTables
import GrantedRoles.Text.PropertyTables

/-!
# Upper and lower case

The full case mappings: one letter may become several (`ß` is `SS` in upper case), and a capital
sigma at the end of a word is written `ς` in lower case. A word ends at the sigma when a cased
character stands before it and none after it, skipping ignorable characters on both sides.
-/

set_option autoImplicit false

namespace GrantedRoles.Text

/-- Takes part in casing, marks aside. -/
def isCased (c : Char) : Bool := casedRanges.contains c.toNat

/-- Is skipped when the end of a word is sought. -/
def isCaseIgnorable (c : Char) : Bool := ignorableRanges.contains c.toNat

/-- A code point moved by the first run that covers it. -/
def moveBy (runs : List CaseRun) (code : Nat) : Nat :=
  match runs.find? (·.covers code) with
  | some run => (code + run.shift).toNat
  | none => code

/-- The upper case of one character. -/
def upperChar (c : Char) : List Char :=
  if c.toNat < 128 then [c.toUpper]
  else
    match upperSequences.lookup c.toNat with
    | some codes => codes.map Char.ofNat
    | none => [Char.ofNat (moveBy upperRuns c.toNat)]

/-- The upper case of a text, character by character. -/
def upper (s : String) : String := String.ofList (s.toList.flatMap upperChar)

/-- The next character that is not ignorable is cased. -/
def casedFollows : List Char → Bool
  | [] => false
  | c :: rest => if isCaseIgnorable c then casedFollows rest else isCased c

/-- The lower case of a character other than the capital sigma. -/
def lowerChar (c : Char) : List Char :=
  if c.toNat < 128 then [c.toLower]
  else if c = 'İ' then ['i', Char.ofNat 0x307]
  else [Char.ofNat (moveBy lowerRuns c.toNat)]

/-- The lower case of a text's rest; `inWord` says that the last character before it that is not
ignorable is cased. -/
def lowerFrom (inWord : Bool) : List Char → List Char
  | [] => []
  | c :: rest =>
      let mapped :=
        if c = 'Σ' then [if inWord && !casedFollows rest then 'ς' else 'σ'] else lowerChar c
      mapped ++ lowerFrom (if isCaseIgnorable c then inWord else isCased c) rest

/-- The lower case of a text. -/
def lower (s : String) : String := String.ofList (lowerFrom false s.toList)

/-- Two texts with one lower case. -/
def sameLower (s t : String) : Bool := lower s == lower t

theorem sameLower_iff {s t : String} : sameLower s t = true ↔ lower s = lower t := by
  simp [sameLower]

/-- Upper case is taken part by part. -/
theorem upper_append (s t : String) : upper (s ++ t) = upper s ++ upper t := by
  simp [upper]

end GrantedRoles.Text
