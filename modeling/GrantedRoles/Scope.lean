/-!
# Search scopes

How far below its base a group search reaches.
-/

set_option autoImplicit false

namespace GrantedRoles

/-- The entries directly below the base, or the whole tree below it. -/
inductive Scope where
  | oneLevel
  | subtree
  deriving DecidableEq, Repr

namespace Scope

/-- Both scopes. -/
def all : List Scope := [.oneLevel, .subtree]

/-- The name under which a scope is known. -/
def name : Scope → String
  | oneLevel => "one_level"
  | subtree => "subtree"

/-- The word that stands for a scope in configuration. -/
def word : Scope → String
  | oneLevel => "ONE_LEVEL"
  | subtree => "SUBTREE"

/-- The word that the directory protocol uses. -/
def directoryWord : Scope → String
  | oneLevel => "LEVEL"
  | subtree => "SUBTREE"

/-- A scope as diagnostics show it. -/
def display (s : Scope) : String := "SearchScope." ++ s.name

/-- A scope inside a quoted value, with its word. -/
def literal (s : Scope) : String := "<" ++ s.display ++ ": '" ++ s.word ++ "'>"

/-- The scope of a word. -/
def ofWord? (word : String) : Option Scope := all.find? (·.word == word)

/-- The scope for "search the whole tree". -/
def ofSubtree (whole : Bool) : Scope := if whole then subtree else oneLevel

@[simp] theorem ofWord?_word (s : Scope) : ofWord? s.word = some s := by
  cases s <;> rfl

theorem ofSubtree_eq_subtree_iff {whole : Bool} : ofSubtree whole = subtree ↔ whole = true := by
  cases whole <;> decide

end Scope

end GrantedRoles
