import GrantedRoles.GroupSearch
import GrantedRoles.Settings.CommandLine.Reading
import GrantedRoles.Settings.Location
import GrantedRoles.Settings.Source
import GrantedRoles.Settings.Validation

/-!
# Making settings

A setting takes its value from a word of the command line, if words are read, else from a keyword
argument, else from the process environment, else it has its default. Keywords are compared in
lower case, and of several for one setting the first counts. What comes from outside is validated,
all of it, and every refusal is reported.
-/

set_option autoImplicit false

namespace GrantedRoles

open Text

namespace Settings

/-- The first keyword argument of a setting. -/
def argument? (arguments : Assoc Value) (field : SettingField) : Option Value :=
  (arguments.find? fun entry => lower entry.1 == field.name).map Prod.snd

/-- Where the values of settings come from. -/
structure Origin where
  environment : Environment
  options : SourceOptions := {}
  arguments : Assoc Value
  words : Assoc Value := []

namespace Origin

/-- The value that is given for a setting from outside. -/
def given? (origin : Origin) (field : SettingField) : Option Value :=
  ((origin.words.get? field.name).or (argument? origin.arguments field)).or
    (origin.environment.value? origin.options field.name)

/-- The value of a setting, or why the given one is refused. -/
def resolve (origin : Origin) (field : SettingField) : Except SettingFault Value :=
  match origin.given? field with
  | some value => field.kind.accept value
  | none => .ok field.standard

/-- The refusal of a setting's value. -/
def refusal? (origin : Origin) (field : SettingField) : Option SettingError :=
  match origin.resolve field with
  | .ok _ => none
  | .error fault => some ⟨field.name, fault⟩

/-- Keyword arguments that name neither a setting nor an option. -/
def unknownArguments (arguments : Assoc Value) : List String :=
  (arguments.filter fun entry =>
    (SettingField.ofName? (lower entry.1)).isNone
      && !SourceOption.isKeyword entry.1).map Prod.fst

/-- Everything that is wrong: the settings in their order, then the unknown arguments in theirs. -/
def refusals (origin : Origin) : List SettingError :=
  SettingField.all.filterMap origin.refusal?
    ++ (unknownArguments origin.arguments).map fun name => ⟨name, .unknown⟩

/-- The accepted value of a setting, or its default. -/
def accepted (origin : Origin) (field : SettingField) : Value :=
  match origin.resolve field with
  | .ok value => value
  | .error _ => field.standard

/-- The settings of an origin, if nothing is wrong. -/
def settings (origin : Origin) : Except Failure Settings :=
  match origin.refusals with
  | [] => .ok ⟨origin.accepted⟩
  | errors => .error (.settings errors)

/-- The origin that an environment and keyword arguments describe on a machine. Files are looked for
before words are read, and secrets after the names of variables are known. -/
def ofArguments (machine : Machine) (environment : Environment) (arguments : Assoc Value) :
    Except Failure Origin := do
  SourceOptions.checkStart (SourceOption.start.chosen arguments)
  SourceOptions.checkSplits (SourceOption.nestedSplits.chosen arguments)
  Location.lookForFiles machine environment arguments
  let words ← CommandLine.valuesOf arguments
  let options ← SourceOptions.ofArguments arguments
  Location.lookForSecrets machine environment arguments
  pure { environment, options, arguments, words }

end Origin

/-- The parts of a value that stands for sources ready-made. -/
def sourceParts (value : Value) : Except Failure (List Value) :=
  match value with
  | .list items => .ok items
  | .tuple items => .ok items
  | .dict entries => .ok (entries.map fun entry => .text entry.1)
  | .octets os _ => .ok (os.map fun octet => .int octet.toNat)
  | other =>
      match other.asText? with
      | some text => .ok (text.toList.map fun c => .text (String.singleton c))
      | none => .error .illTyped

/-- The settings of sources ready-made, which come in a pair with what they were made from. Without
any, nothing gives a setting a value; no value is such a source. -/
def ofSources (value : Value) : Except Failure Settings := do
  match ← sourceParts value with
  | [sources, _] => if sources.isTruthy then .error .illTyped else .ok standard
  | parts => .error (.value (.notPair parts.length))

/-- The settings of an environment and of keyword arguments on a machine. -/
def construct (machine : Machine) (environment : Environment) (arguments : Assoc Value) :
    Except Failure Settings :=
  if (arguments.get? SourceOption.selfKeyword).isSome then .error .illTyped
  else
    match SourceOption.sources.chosen arguments with
    | .null => do
        let origin ← Origin.ofArguments machine environment arguments
        origin.settings
    | sources => ofSources sources

/-- The group search that the settings describe. -/
def groupSearch (settings : Settings) : Except Failure GroupSearch :=
  GroupSearch.fromSubtreeFlag
    [(GroupSearchField.base.keyword, settings.get .groupSearchBase),
      (GroupSearchField.filter.keyword, settings.get .groupSearchFilter),
      (GroupSearchField.roleAttribute.keyword, settings.get .groupRoleAttribute),
      (GroupSearch.subtreeKeyword, settings.get .searchSubtree),
      (GroupSearchField.rolePrefix.keyword, settings.get .rolePrefix),
      (GroupSearchField.upperCase.keyword, settings.get .convertToUpperCase),
      (GroupSearchField.defaultRole.keyword, settings.get .defaultRole)]

end Settings

end GrantedRoles
