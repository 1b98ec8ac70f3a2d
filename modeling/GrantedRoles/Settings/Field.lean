import GrantedRoles.Value

/-!
# Settings

The fourteen settings: their names, their defaults and what kind of value each accepts. A
`Settings` object gives every setting a value. Construction validates what it takes from outside;
a later assignment is not validated, so a value of any type may stand there.
-/

set_option autoImplicit false

namespace GrantedRoles

/-- A setting. -/
inductive SettingField where
  | env
  | serviceName
  | logLevel
  | ldapUrl
  | rootDn
  | bindDn
  | bindPassword
  | groupSearchBase
  | groupSearchFilter
  | groupRoleAttribute
  | searchSubtree
  | convertToUpperCase
  | rolePrefix
  | defaultRole
  deriving DecidableEq, Repr

/-- What kind of value a setting accepts. -/
inductive SettingKind where
  | environment
  | text
  | optionalText
  | flag
  deriving DecidableEq, Repr

namespace SettingField

/-- Every setting, in the order in which they are listed. -/
def all : List SettingField :=
  [env, serviceName, logLevel, ldapUrl, rootDn, bindDn, bindPassword, groupSearchBase,
    groupSearchFilter, groupRoleAttribute, searchSubtree, convertToUpperCase, rolePrefix,
    defaultRole]

/-- The name of a setting. -/
def name : SettingField → String
  | env => "env"
  | serviceName => "service_name"
  | logLevel => "log_level"
  | ldapUrl => "ldap_url"
  | rootDn => "root_dn"
  | bindDn => "bind_dn"
  | bindPassword => "bind_password"
  | groupSearchBase => "group_search_base"
  | groupSearchFilter => "group_search_filter"
  | groupRoleAttribute => "group_role_attribute"
  | searchSubtree => "search_subtree"
  | convertToUpperCase => "convert_to_upper_case"
  | rolePrefix => "role_prefix"
  | defaultRole => "default_role"

/-- The kind of a setting. -/
def kind : SettingField → SettingKind
  | env => .environment
  | serviceName | logLevel | rootDn | groupSearchFilter | groupRoleAttribute | rolePrefix => .text
  | ldapUrl | bindDn | bindPassword | groupSearchBase | defaultRole => .optionalText
  | searchSubtree | convertToUpperCase => .flag

/-- The value of a setting that nothing gives a value. -/
def standard : SettingField → Value
  | env => .text "dev"
  | serviceName => .text "ldap-authorities"
  | logLevel => .text "INFO"
  | rootDn => .text ""
  | groupSearchFilter => .text "(member=\x7b0\x7d)"
  | groupRoleAttribute => .text "cn"
  | rolePrefix => .text "ROLE_"
  | searchSubtree => .bool false
  | convertToUpperCase => .bool true
  | ldapUrl | bindDn | bindPassword | groupSearchBase | defaultRole => .null

/-- The setting of a name. -/
def ofName? (name : String) : Option SettingField := all.find? (·.name == name)

/-- Shown in writing; the password is not. -/
def isShown (field : SettingField) : Bool := field != bindPassword

theorem mem_all (field : SettingField) : field ∈ all := by
  cases field <;> decide

@[simp] theorem ofName?_name (field : SettingField) : ofName? field.name = some field := by
  cases field <;> rfl

end SettingField

/-- A value for every setting. -/
structure Settings where
  get : SettingField → Value

namespace Settings

/-- The settings that nothing gives a value. -/
def standard : Settings := ⟨SettingField.standard⟩

/-- Assigns a value to a setting, without looking at it. -/
def set (settings : Settings) (field : SettingField) (value : Value) : Settings :=
  ⟨fun other => if other = field then value else settings.get other⟩

/-- Settings with equal values. -/
def same (a b : Settings) : Bool :=
  SettingField.all.all fun field => (a.get field).same (b.get field)

end Settings

end GrantedRoles
