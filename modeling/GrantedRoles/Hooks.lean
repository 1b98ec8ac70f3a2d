import GrantedRoles.Failure
import GrantedRoles.TextSet
import GrantedRoles.User

/-!
# Role hooks

Two hooks contribute roles beyond the group search: the deprecated legacy hook sees the user's
name and attributes, the additional hook the whole user. What a hook returns counts as it is: it
is neither prefixed nor upper-cased. A hook that is not overridden contributes nothing.
-/

set_option autoImplicit false

namespace GrantedRoles

/-- What a hook answers: roles, nothing, or a failure. -/
abbrev Contribution := Except Failure (Option TextSet)

/-- The overridden hooks, and whether the object that has them counts as "yes" where a condition is
asked for. -/
structure Hooks where
  legacy : Option (String → Assoc AttributeValues → Contribution) := none
  additional : Option (User → Contribution) := none
  isTruthy : Bool := true

/-- The hooks that are asked: those of an object that does not count are not. -/
def Hooks.orDefault (hooks : Hooks) : Hooks := if hooks.isTruthy then hooks else {}

/-- What one scripted hook does. -/
inductive HookScript where
  | fails (failure : Failure)
  | assigns (name : String)
  | fromAttribute (name start : String)
  | answers (roles : Option (List String))

namespace HookScript

/-- The values of an attribute as roles. -/
def startedBy (start : String) (values : List String) : Option TextSet :=
  some (TextSet.ofList (values.map (start ++ ·)))

/-- The script as a legacy hook, which finds an attribute by its exact name. -/
def legacy (script : HookScript) : String → Assoc AttributeValues → Contribution :=
  fun _ attributes =>
    match script with
    | fails failure => .error failure
    | assigns _ => .error .illTyped
    | fromAttribute name start =>
        .ok (startedBy start ((attributes.get? name).elim [] AttributeValues.items))
    | answers roles => .ok (roles.map TextSet.ofList)

/-- The script as an additional hook, which finds an attribute as the user does. -/
def additional (script : HookScript) : User → Contribution := fun user =>
  match script with
  | fails failure => .error failure
  | assigns name => .error (user.assignAttribute name)
  | fromAttribute name start => .ok (startedBy start (user.attributeValues name))
  | answers roles => .ok (roles.map TextSet.ofList)

end HookScript

/-- Hooks of scripts, where there are scripts. -/
def Hooks.ofScripts (legacy additional : Option HookScript) : Hooks :=
  { legacy := legacy.map HookScript.legacy, additional := additional.map HookScript.additional }

end GrantedRoles
