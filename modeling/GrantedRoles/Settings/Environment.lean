import GrantedRoles.Assoc
import GrantedRoles.Failure

/-!
# The environment of a process

Variables with texts for values, in the order in which they were first set. Names are told apart
exactly here; whoever reads the environment decides which names count as one.
-/

set_option autoImplicit false

namespace GrantedRoles

/-- The variables of the process, in order. -/
abbrev Environment := Assoc String

namespace Environment

/-- Why a variable cannot be set. -/
def refusal? (name value : String) : Option Failure :=
  if (name ++ value).toList.contains '\x00' then some (.value .nulInText)
  else if name.toList.contains '=' then some (.value .equalsInVariable)
  else if name = "" then some .badArgument
  else none

/-- Sets a variable to a text, or unsets it if there is no value. -/
def assign (environment : Environment) (name : String) : Value → Except Failure Environment
  | .null => .ok (environment.erase name)
  | .text value =>
      match refusal? name value with
      | some failure => .error failure
      | none => .ok (environment.put name value)
  | _ => .error .illTyped

/-- Makes changes in order, up to the first that is refused. -/
def change (environment : Environment) : List (String × Value) → Except Failure Unit × Environment
  | [] => (.ok (), environment)
  | (name, value) :: rest =>
      match environment.assign name value with
      | .ok changed => changed.change rest
      | .error failure => (.error failure, environment)

end Environment

end GrantedRoles
