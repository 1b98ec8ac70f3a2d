import GrantedRoles.SearchFilter.Escape
import GrantedRoles.SearchFilter.Format

/-!
# Search filters

A search filter is rendered from a template and its parameters. `SearchFilter.read` admits the
templates whose placeholders are plain decimal numbers; `SearchFilter.render` then has the template
formatted with the escaped parameters, which reads it a second time. Whether a template is admitted
never depends on what the parameters hold.
-/

set_option autoImplicit false

namespace GrantedRoles.SearchFilter

open Text

/-- A part of an admitted template: a character of the filter, or the place of a parameter. -/
inductive Part where
  | char (c : Char)
  | param (index : Nat)
  deriving DecidableEq, Repr

/-- The parameter that a placeholder stands for: its name is a number, without format and
conversion. The decimal digits that the name starts with are counted before any other digit is
refused. -/
def Placeholder.index (template : String) (p : Placeholder) : Except Failure Nat :=
  let name := String.ofList p.name
  if p.name.isEmpty || !p.name.all isDigit || !p.spec.isEmpty || p.conversion.isSome then
    .error (.search (.unsupportedPlaceholder template name))
  else
    let count := (p.name.takeWhile fun c => (decimalValue? c).isSome).length
    if maxDigits < count then .error (.value (.tooManyDigits count))
    else
      match decimalValues? p.name with
      | none => .error (.value (.notInteger (.text name)))
      | some digits => .ok (ofDecimals digits)

/-- The parts of a template's pieces. -/
def partsOf (template : String) : List Piece → Except Failure (List Part)
  | [] => .ok []
  | .char c :: rest => (partsOf template rest).map (.char c :: ·)
  | .field p :: rest =>
      match p.index template with
      | .error failure => .error failure
      | .ok index => (partsOf template rest).map (.param index :: ·)

/-- The parts of a template. -/
def readText (template : String) : Except Failure (List Part) :=
  match Template.parse template.toList with
  | .error fault => .error (.search (.malformedFilter template fault))
  | .ok pieces => partsOf template pieces

/-- The parts of what is given as a template. -/
def read (template : Value) : Except Failure (List Part) :=
  match template.asText? with
  | some text => readText text
  | none => .error .illTyped

/-- The parameters that the parts refer to, in order. -/
def references (parts : List Part) : List Nat :=
  parts.filterMap fun
    | .char _ => none
    | .param index => some index

/-- Ascending and without repetition. -/
def ascending (indexes : List Nat) : List Nat := indexes.mergeSort.eraseDups

/-- The parameters that a template refers to, in ascending order. -/
def placeholderIndexes (template : Value) : Except Failure (List Nat) :=
  (read template).map fun parts => ascending (references parts)

/-- The search filter of a template and its parameters. -/
def render (template : Value) (params : List Value) : Except Failure String :=
  match read template with
  | .error failure => .error failure
  | .ok parts =>
      match (references parts).filter (params.length ≤ ·) with
      | [] => do
          let escaped ← escapeAll params
          match Template.format? (template.asText?.getD "") escaped with
          | some filter => .ok filter
          | none => .error .noArgument
      | missing =>
          .error (.search
            (.missingParameters (template.asText?.getD "") (ascending missing) params.length))

end GrantedRoles.SearchFilter
