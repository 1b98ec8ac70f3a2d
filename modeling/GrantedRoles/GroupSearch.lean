import GrantedRoles.Assoc
import GrantedRoles.Value.Hash
import GrantedRoles.Value.Sum

/-!
# The group search configuration

Where groups are searched, how a group is recognised as the user's, which of its attributes names
the role, and how that name becomes a role. A `GroupSearch` always has its required parts: they
are fields of the type. It is built from keyword arguments (`GroupSearch.ofArguments` and its two
relatives) or from another configuration by a `Modifier`; each of these refuses what would not be
a configuration and says why.
-/

set_option autoImplicit false

namespace GrantedRoles

open Text

/-- A group search configuration. No base means that groups are not searched; the empty base
means that they are searched from the root of the directory. -/
structure GroupSearch where
  base : Value := .null
  filter : Value := .text "(member=\x7b0\x7d)"
  roleAttribute : Value := .text "cn"
  scope : Scope := .oneLevel
  rolePrefix : Value := .text "ROLE_"
  upperCase : Bool := true
  defaultRole : Value := .null
  filter_isPresent : filter.isPresent = true := by rfl
  roleAttribute_isPresent : roleAttribute.isPresent = true := by rfl
  rolePrefix_isPresent : rolePrefix.isPresent = true := by rfl

/-- Seven values that may or may not make a configuration. -/
structure GroupSearchDraft where
  base : Value := .null
  filter : Value := .text "(member=\x7b0\x7d)"
  roleAttribute : Value := .text "cn"
  scope : Value := .scope .oneLevel
  rolePrefix : Value := .text "ROLE_"
  upperCase : Value := .bool true
  defaultRole : Value := .null

/-- The parts of a configuration that keyword arguments name. -/
inductive GroupSearchField where
  | base
  | filter
  | roleAttribute
  | scope
  | rolePrefix
  | upperCase
  | defaultRole
  deriving DecidableEq, Repr

namespace GroupSearchField

/-- Every part, in the order in which a configuration is written out. -/
def all : List GroupSearchField :=
  [base, filter, roleAttribute, scope, rolePrefix, upperCase, defaultRole]

/-- The keyword of a part. -/
def keyword : GroupSearchField → String
  | base => "group_search_base"
  | filter => "group_search_filter"
  | roleAttribute => "group_role_attribute"
  | scope => "search_scope"
  | rolePrefix => "role_prefix"
  | upperCase => "convert_to_upper_case"
  | defaultRole => "default_role"

/-- The part that a keyword names. -/
def ofKeyword? (keyword : String) : Option GroupSearchField := all.find? (·.keyword == keyword)

@[simp] theorem ofKeyword?_keyword (field : GroupSearchField) :
    ofKeyword? field.keyword = some field := by
  cases field <;> rfl

theorem keyword_injective {field other : GroupSearchField} (h : field.keyword = other.keyword) :
    field = other := by
  have hsome : some field = some other := by
    rw [← ofKeyword?_keyword field, h, ofKeyword?_keyword]
  exact Option.some.inj hsome

end GroupSearchField

namespace GroupSearchDraft

/-- Sets one part. -/
def set (draft : GroupSearchDraft) (field : GroupSearchField) (value : Value) : GroupSearchDraft :=
  match field with
  | .base => { draft with base := value }
  | .filter => { draft with filter := value }
  | .roleAttribute => { draft with roleAttribute := value }
  | .scope => { draft with scope := value }
  | .rolePrefix => { draft with rolePrefix := value }
  | .upperCase => { draft with upperCase := value }
  | .defaultRole => { draft with defaultRole := value }

/-- Sets the parts that arguments name; an unknown keyword is ill typed. -/
def setAll (draft : GroupSearchDraft) : Assoc Value → Except Failure GroupSearchDraft
  | [] => .ok draft
  | (keyword, value) :: rest =>
      match GroupSearchField.ofKeyword? keyword with
      | some field => (draft.set field value).setAll rest
      | none => .error .illTyped

/-- The configuration that the draft makes. The first missing part is refused, then a scope or an
upper case flag of the wrong type, which the refusal quotes. -/
def validate (draft : GroupSearchDraft) : Except Failure GroupSearch :=
  if hf : draft.filter.isPresent = true then
    if ha : draft.roleAttribute.isPresent = true then
      if draft.scope.isPresent then
        if hp : draft.rolePrefix.isPresent = true then
          if draft.upperCase.isPresent then
            match draft.scope, draft.upperCase with
            | .scope scope, .bool upperCase =>
                .ok { base := draft.base, filter := draft.filter,
                      roleAttribute := draft.roleAttribute, scope := scope,
                      rolePrefix := draft.rolePrefix, upperCase := upperCase,
                      defaultRole := draft.defaultRole, filter_isPresent := hf,
                      roleAttribute_isPresent := ha, rolePrefix_isPresent := hp }
            | .scope _, value =>
                .error (.quoting [value] (.configuration (.upperCaseNotBool value)))
            | value, _ => .error (.quoting [value] (.configuration (.unknownScope value)))
          else .error (.absent .convertToUpperCase)
        else .error (.absent .rolePrefix)
      else .error (.absent .searchScope)
    else .error (.absent .groupRoleAttribute)
  else .error (.absent .groupSearchFilter)

end GroupSearchDraft

/-- The scope for a flag "search the whole tree". -/
def Scope.ofFlag (flag : Value) : Except Failure Scope :=
  match flag with
  | .null => .error (.absent .searchSubtree)
  | .bool whole => .ok (.ofSubtree whole)
  | other => .error (.quoting [other] (.configuration (.subtreeNotBool other)))

/-- A change of one part of a configuration. -/
inductive Modifier where
  | rolePrefix (value : Value)
  | filter (value : Value)
  | roleAttribute (value : Value)
  | subtree (flag : Value)
  | upperCase (flag : Value)
  | defaultRole (value : Value)

namespace GroupSearch

/-- The draft that makes this configuration. -/
def draft (config : GroupSearch) : GroupSearchDraft :=
  { base := config.base, filter := config.filter, roleAttribute := config.roleAttribute,
    scope := .scope config.scope, rolePrefix := config.rolePrefix,
    upperCase := .bool config.upperCase, defaultRole := config.defaultRole }

/-- The configuration of keyword arguments; what they do not name has its default. -/
def ofArguments (arguments : Assoc Value) : Except Failure GroupSearch :=
  match ({} : GroupSearchDraft).setAll arguments with
  | .ok draft => draft.validate
  | .error failure => .error failure

/-- The name of the argument that every constructor has by itself. -/
def implicitKeyword : String := "cls"

/-- The configuration for searching under a base, which must be there: asking for a search with no
base is a mistake. The base may not be given twice. -/
def forSearchBase (base : Value) (arguments : Assoc Value) : Except Failure GroupSearch :=
  if (arguments.get? GroupSearchField.base.keyword).isSome
      || (arguments.get? implicitKeyword).isSome then .error .illTyped
  else
    match require base .searchBase with
    | .error failure => .error failure
    | .ok () => ofArguments (Assoc.put GroupSearchField.base.keyword base arguments)

/-- The keyword of the flag that stands for a scope. -/
def subtreeKeyword : String := "search_subtree"

/-- The configuration of arguments that give the scope as a flag. The scope may not be given
twice. -/
def fromSubtreeFlag (arguments : Assoc Value) : Except Failure GroupSearch :=
  if (arguments.get? implicitKeyword).isSome then .error .illTyped
  else
    match Scope.ofFlag ((arguments.get? subtreeKeyword).getD (.bool false)) with
    | .error failure => .error failure
    | .ok scope =>
        let others := arguments.erase subtreeKeyword
        if (others.get? GroupSearchField.scope.keyword).isSome then .error .illTyped
        else ofArguments (Assoc.put GroupSearchField.scope.keyword (.scope scope) others)

/-- Groups are searched. -/
def searchEnabled (config : GroupSearch) : Bool := config.base.isPresent

/-- The whole tree is searched. -/
def searchesSubtree (config : GroupSearch) : Bool := config.scope == .subtree

/-- The configuration after a change, or why the change is refused. -/
def modify (config : GroupSearch) : Modifier → Except Failure GroupSearch
  | .rolePrefix value => do
      require value .rolePrefix
      (config.draft.set .rolePrefix value).validate
  | .filter value => do
      require value .groupSearchFilter
      (config.draft.set .filter value).validate
  | .roleAttribute value => do
      require value .groupRoleAttribute
      (config.draft.set .roleAttribute value).validate
  | .subtree flag => do
      let scope ← Scope.ofFlag flag
      (config.draft.set .scope (.scope scope)).validate
  | .upperCase flag => do
      require flag .convertToUpperCase
      (config.draft.set .upperCase flag).validate
  | .defaultRole value => do
      require value .defaultRole
      (config.draft.set .defaultRole value).validate

/-- The role that a name found in the directory stands for. -/
def normalizeText (config : GroupSearch) (raw : String) : Except Failure String :=
  match config.rolePrefix.asText? with
  | some start => .ok (start ++ if config.upperCase then upper raw else raw)
  | none => .error .illTyped

/-- The role of a name of any type: the prefix and the name make a sum, and it takes a name with an
upper case to be written in it. -/
def normalizeRole (config : GroupSearch) (raw : Value) : Except Failure Value := do
  let role ← if config.upperCase then raw.uppercase else pure raw
  config.rolePrefix.plus role

/-- A name that is a text becomes a role that is a text, or none. -/
theorem normalizeRole_text (config : GroupSearch) (raw : String) :
    config.normalizeRole (.text raw) = (config.normalizeText raw).map .text := by
  have hplus (role : String) : config.rolePrefix.plus (.text role)
      = (config.rolePrefix.asText?.elim (.error .illTyped) fun start =>
          .ok (.text (start ++ role))) := by
    cases config.rolePrefix <;> rfl
  unfold normalizeRole normalizeText
  cases hstart : config.rolePrefix.asText? <;> cases config.upperCase <;>
    simp_all [bind, Except.bind, pure, Except.pure, Except.map]

/-- One part of a configuration. -/
def get (config : GroupSearch) : GroupSearchField → Value
  | .base => config.base
  | .filter => config.filter
  | .roleAttribute => config.roleAttribute
  | .scope => .scope config.scope
  | .rolePrefix => config.rolePrefix
  | .upperCase => .bool config.upperCase
  | .defaultRole => config.defaultRole

/-- Two configurations with equal parts. -/
def same (a b : GroupSearch) : Bool :=
  GroupSearchField.all.all fun field => (a.get field).same (b.get field)

/-- A configuration is a key if all its parts are. -/
def isHashable (config : GroupSearch) : Bool :=
  GroupSearchField.all.all fun field => (config.get field).isHashable

/-- The hashes of two configurations agree: those of all their parts do. Only keys have one. -/
def sameHash (a b : GroupSearch) : Except Failure Bool :=
  if a.isHashable && b.isHashable then
    .ok (GroupSearchField.all.all fun field => (a.get field).sameHash (b.get field))
  else .error .illTyped

/-- The configuration in writing. -/
def literal (config : GroupSearch) : Except Failure String :=
  let parts := GroupSearchField.all.map fun field =>
    field.keyword ++ "=" ++ (config.get field).literal
  if GroupSearchField.all.all fun field => (config.get field).isWritable then
    .ok ("GroupSearchConfig(" ++ ", ".intercalate parts ++ ")")
  else .error .unwritable

/-- Assigning to a part never succeeds. -/
def assign (_config : GroupSearch) (name : String) : Failure :=
  match GroupSearchField.ofKeyword? name with
  | some _ => .frozen name
  | none => .illTyped

end GroupSearch

end GrantedRoles
