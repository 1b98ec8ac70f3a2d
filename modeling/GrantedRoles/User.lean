import GrantedRoles.Assoc
import GrantedRoles.Failure
import GrantedRoles.Text.Casing

/-!
# Users

The authenticated user whose roles are resolved: a distinguished name, a user name, and the
directory attributes that were read at authentication. Attributes are only passed on to hooks.
-/

set_option autoImplicit false

namespace GrantedRoles

open Text

/-- What an attribute holds: a list of texts, or one text, which is listed by its characters. -/
inductive AttributeValues where
  | single (s : String)
  | listed (items : List String)
  deriving DecidableEq, Repr

namespace AttributeValues

/-- The values one by one. -/
def items : AttributeValues → List String
  | single s => s.toList.map fun c => String.ofList [c]
  | listed items => items

/-- The attribute as a value. -/
def toValue : AttributeValues → Value
  | single s => .text s
  | listed items => .list (items.map .text)

end AttributeValues

/-- An authenticated user. -/
structure User where
  dn : String
  username : String
  attributes : Assoc AttributeValues := []

namespace User

/-- The values of an attribute, whose name is compared without regard to case. Of several such
attributes the first counts. -/
def attributeValues (user : User) (name : String) : List String :=
  match user.attributes.find? fun entry => sameLower entry.1 name with
  | some entry => entry.2.items
  | none => []

/-- Attributes with the same names and the same values, in whatever order. -/
def sameAttributes (a b : Assoc AttributeValues) : Bool :=
  a.length == b.length && a.all fun entry => b.get? entry.1 == some entry.2

/-- Users that compare equal. -/
def same (a b : User) : Bool :=
  a.dn == b.dn && a.username == b.username && sameAttributes a.attributes b.attributes

/-- What the hash of a user depends on. -/
def hashKey (user : User) : String × String := (user.dn, user.username)

/-- The user in writing. -/
def literal (user : User) : String :=
  let attributes := Value.dict (user.attributes.map fun entry => (entry.1, entry.2.toValue))
  "LdapUserDetails(dn=" ++ quotedText user.dn ++ ", username=" ++ quotedText user.username
    ++ ", attributes=mappingproxy(" ++ attributes.literal ++ "))"

/-- The names of the fields. -/
def fieldNames : List String := ["dn", "username", "attributes"]

/-- Assigning to a field never succeeds. -/
def assign (_user : User) (name : String) : Failure :=
  if fieldNames.contains name then .frozen name else .illTyped

/-- Assigning to an attribute never succeeds. -/
def assignAttribute (_user : User) (_name : String) : Failure := .illTyped

end User

end GrantedRoles
