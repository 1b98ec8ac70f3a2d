import GrantedRoles.Failure
import GrantedRoles.TextSet

/-!
# Role sets

What a resolution answers. The roles that are found in the directory or contributed by hooks are
texts. The default role is taken as it is: a text joins the others, and any other key stands
beside them. Texts have an order and so can be listed; a role that is no text has none among them.
-/

set_option autoImplicit false

namespace GrantedRoles

/-- The roles of a user: texts, and a default role that is no text. -/
structure RoleSet where
  texts : TextSet
  other : Option Value := none

namespace RoleSet

/-- Adds a role as it is. What cannot be a key cannot be a role. -/
def withRole (texts : TextSet) (role : Value) : Except Failure RoleSet :=
  match role.asText? with
  | some text => .ok { texts := texts.insert text }
  | none => if role.isHashable then .ok { texts, other := some role } else .error .illTyped

/-- Adds a default role, if there is one. -/
def withDefault (texts : TextSet) (role : Value) : Except Failure RoleSet :=
  if role.isPresent then withRole texts role else .ok { texts }

/-- The roles in order, if they have one. -/
def ordered (roles : RoleSet) : Except Failure (List Value) :=
  match roles.other, roles.texts.toList with
  | none, texts => .ok (texts.map .text)
  | some role, [] => .ok [role]
  | some _, _ :: _ => .error .illTyped

@[simp] theorem withDefault_null (texts : TextSet) : withDefault texts .null = .ok { texts } := rfl

@[simp] theorem withDefault_text (texts : TextSet) (role : String) :
    withDefault texts (.text role) = .ok { texts := texts.insert role } := rfl

@[simp] theorem ordered_texts (texts : TextSet) :
    ordered { texts } = .ok (texts.toList.map .text) := rfl

end RoleSet

end GrantedRoles
