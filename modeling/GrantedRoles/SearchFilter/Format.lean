import GrantedRoles.SearchFilter.Template

/-!
# Formatting

Formatting reads a template by itself, whoever has admitted it: for each placeholder it counts the
index that the name writes, digit by digit, and puts the argument at that index in its place. Only
placeholders that stand for a whole argument are formatted here. A name that is no number, a format
or a conversion asks for something else.
-/

set_option autoImplicit false

namespace GrantedRoles.SearchFilter

open Text

/-- The index that is counted when these digits follow those of another index. What is no decimal
digit counts nothing. -/
def countIndex? (index : Nat) : List Char → Option Nat
  | [] => some index
  | c :: rest => (decimalValue? c).bind fun d => countIndex? (index * 10 + d) rest

/-- The index that a name writes; the empty name writes none. -/
def indexOf? (name : List Char) : Option Nat :=
  if name.isEmpty then none else countIndex? 0 name

/-- The argument that a placeholder stands for. -/
def Placeholder.argument? (args : List String) (p : Placeholder) : Option String :=
  if !p.spec.isEmpty || p.conversion.isSome then none else (indexOf? p.name).bind (args[·]?)

/-- The pieces of a template with arguments in the places of the placeholders. -/
def formatPieces? (args : List String) : List Piece → Option (List Char)
  | [] => some []
  | .char c :: rest => (formatPieces? args rest).map (c :: ·)
  | .field p :: rest =>
      match p.argument? args with
      | none => none
      | some argument => (formatPieces? args rest).map (argument.toList ++ ·)

/-- A template with arguments in the places of its placeholders. -/
def Template.format? (template : String) (args : List String) : Option String :=
  match Template.parse template.toList with
  | .error _ => none
  | .ok pieces => (formatPieces? args pieces).map String.ofList

end GrantedRoles.SearchFilter
