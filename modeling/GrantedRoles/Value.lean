import GrantedRoles.Number.Shortest
import GrantedRoles.Scope
import GrantedRoles.Text.Integer
import GrantedRoles.Text.Octets
import GrantedRoles.Text.Quoted

/-!
# Values

Configuration arguments, filter parameters and directory results are values of no fixed type: a
caller may hand in anything, and what is wrong with it shows in a diagnostic. This module holds
the value type, its two texts (`display` for messages, `literal` inside quotes) and its equality,
which compares numbers of different types by what they are worth. Integers of more than `maxDigits`
digits have no text; `isWritable` says of a value whether it has its texts.
-/

set_option autoImplicit false

namespace GrantedRoles

open Number Text

/-- A value of any type. Octets come in a fixed and in a growable form; a scope also counts as
the text of its word. -/
inductive Value where
  | null
  | bool (b : Bool)
  | int (n : Int)
  | real (x : Binary64)
  | text (s : String)
  | octets (os : List UInt8) (growable : Bool)
  | list (items : List Value)
  | tuple (items : List Value)
  | dict (entries : List (String × Value))
  | scope (s : Scope)

namespace Value

instance : Inhabited Value := ⟨.null⟩

/-- There is a value. -/
def isPresent : Value → Bool
  | null => false
  | _ => true

/-- Counts as "yes" where a condition is asked for: neither absent, zero nor empty. -/
def isTruthy : Value → Bool
  | null => false
  | bool b => b
  | int n => n != 0
  | real x => !x.isZero
  | text s => s != ""
  | octets os _ => !os.isEmpty
  | list items => !items.isEmpty
  | tuple items => !items.isEmpty
  | dict entries => !entries.isEmpty
  | scope _ => true

/-- The text that a value is; a scope is its word. -/
def asText? : Value → Option String
  | text s => some s
  | scope s => some s.word
  | _ => none

/-- A Boolean in a message. -/
def boolText (b : Bool) : String := if b then "True" else "False"

/-! ## The two texts of a value -/

mutual

/-- A value as it stands in a quotation, if it can be written. -/
def literal : Value → String
  | null => "None"
  | bool b => boolText b
  | int n => toString n
  | real x => x.text
  | text s => quotedText s
  | octets os growable => if growable then quotedGrowable os else quotedOctets os
  | list items => "[" ++ ", ".intercalate (literals items) ++ "]"
  | tuple [item] => "(" ++ literal item ++ ",)"
  | tuple items => "(" ++ ", ".intercalate (literals items) ++ ")"
  | dict entries => "\x7b" ++ ", ".intercalate (entryLiterals entries) ++ "\x7d"
  | scope s => s.literal

/-- The literals of a list's items. -/
def literals : List Value → List String
  | [] => []
  | item :: rest => literal item :: literals rest

/-- The literals of a dictionary's entries. -/
def entryLiterals : List (String × Value) → List String
  | [] => []
  | (key, value) :: rest => (quotedText key ++ ": " ++ literal value) :: entryLiterals rest

end

mutual

/-- A value can be written: no integer that would have to be is longer than `maxDigits`. -/
def isWritable : Value → Bool
  | int n => n.natAbs < Nat.pow 10 maxDigits
  | list items => areWritable items
  | tuple items => areWritable items
  | dict entries => entriesAreWritable entries
  | _ => true

/-- Every item can be written. -/
def areWritable : List Value → Bool
  | [] => true
  | item :: rest => isWritable item && areWritable rest

/-- The value of every entry can be written. -/
def entriesAreWritable : List (String × Value) → Bool
  | [] => true
  | (_, value) :: rest => isWritable value && entriesAreWritable rest

end

/-- A value as it stands in a sentence: a text as it is, anything else as in a quotation. -/
def display : Value → String
  | text s => s
  | scope s => s.display
  | other => other.literal

@[simp] theorem display_text (s : String) : (text s).display = s := rfl

@[simp] theorem isWritable_null : null.isWritable = true := rfl

@[simp] theorem isWritable_text (s : String) : (text s).isWritable = true := rfl

@[simp] theorem isWritable_scope (s : Scope) : (scope s).isWritable = true := rfl

theorem areWritable_iff {items : List Value} :
    areWritable items = true ↔ ∀ item ∈ items, item.isWritable = true := by
  induction items with
  | nil => simp [areWritable]
  | cons item rest ih => simp [areWritable, ih]

@[simp] theorem asText?_text (s : String) : (text s).asText? = some s := rfl

@[simp] theorem isPresent_null : null.isPresent = false := rfl

@[simp] theorem isPresent_text (s : String) : (text s).isPresent = true := rfl

theorem isPresent_iff {v : Value} : v.isPresent = true ↔ v ≠ null := by
  cases v <;> simp [isPresent]

/-! ## The type of a value in words -/

/-- The name of a value's type. -/
def typeName : Value → String
  | null => "NoneType"
  | bool _ => "bool"
  | int _ => "int"
  | real _ => "float"
  | text _ => "str"
  | octets _ growable => if growable then "bytearray" else "bytes"
  | list _ => "list"
  | tuple _ => "tuple"
  | dict _ => "dict"
  | scope _ => "SearchScope"

/-- The type of a value as it stands in a sentence. -/
def typeText (v : Value) : String :=
  match v with
  | scope _ => "<enum '" ++ v.typeName ++ "'>"
  | _ => "<class '" ++ v.typeName ++ "'>"

/-! ## Equality -/

/-- The integer that a number is, if it is one; truth values count as one and zero. -/
def asInt? : Value → Option Int
  | bool b => some (if b then 1 else 0)
  | int n => some n
  | real x => x.toInt?
  | _ => none

/-- Equality of values without parts: numbers by worth, octets whether they can grow or not, a
scope and its word alike. -/
def sameAtom : Value → Value → Bool
  | null, null => true
  | octets os _, octets ps _ => os == ps
  | real x, real y => x.same y
  | v, w =>
      match v.asText?, w.asText? with
      | some s, some t => s == t
      | none, none =>
          match v.asInt?, w.asInt? with
          | some m, some n => m == n
          | _, _ => false
      | _, _ => false

mutual

/-- Equality of values; the order of a dictionary's entries does not count. -/
def same : Value → Value → Bool
  | list items, other =>
      match other with
      | list others => sameItems items others
      | _ => false
  | tuple items, other =>
      match other with
      | tuple others => sameItems items others
      | _ => false
  | dict entries, other =>
      match other with
      | dict others => entries.length == others.length && sameEntries entries others
      | _ => false
  | null, other => sameAtom null other
  | bool b, other => sameAtom (bool b) other
  | int n, other => sameAtom (int n) other
  | real x, other => sameAtom (real x) other
  | text s, other => sameAtom (text s) other
  | octets os growable, other => sameAtom (octets os growable) other
  | scope s, other => sameAtom (scope s) other

/-- Items equal one by one. -/
def sameItems : List Value → List Value → Bool
  | [], others => others.isEmpty
  | item :: rest, others =>
      match others with
      | [] => false
      | other :: more => same item other && sameItems rest more

/-- Every entry has its equal under the same key. -/
def sameEntries : List (String × Value) → List (String × Value) → Bool
  | [], _ => true
  | (key, value) :: rest, others =>
      (match others.lookup key with
        | some other => same value other
        | none => false) && sameEntries rest others

end

mutual

/-- Can serve as a key: nothing in it can change. -/
def isHashable : Value → Bool
  | list _ => false
  | dict _ => false
  | octets _ growable => !growable
  | tuple items => allHashable items
  | _ => true

/-- Every item can serve as a key. -/
def allHashable : List Value → Bool
  | [] => true
  | item :: rest => isHashable item && allHashable rest

end

/-- The number zero, of any type. -/
def isZero (v : Value) : Bool := v.same (.int 0)

end Value

end GrantedRoles
