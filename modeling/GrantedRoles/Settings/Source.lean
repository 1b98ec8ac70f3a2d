import GrantedRoles.Settings.Environment
import GrantedRoles.Settings.Field
import GrantedRoles.Settings.Option
import GrantedRoles.Text.Casing

/-!
# The environment as a source of settings

A variable gives a setting its value if its name is the setting's after a common start. How the
names are compared, where they start and which values count can be chosen with options.
-/

set_option autoImplicit false

namespace GrantedRoles

open Text

/-- How settings are read from the environment. -/
structure SourceOptions where
  start : String := "LDAP_AUTHZ_"
  caseSensitive : Bool := false
  skipsEmpty : Bool := false
  absentWord : Option String := none
  deriving DecidableEq, Repr

namespace SourceOptions

/-- The words for what a start is put before: the names of variables, or all names. -/
def startTargets : List String := ["variable", "all"]

/-- The chosen start stands before the names of variables. -/
def isStarted (target : Value) : Bool :=
  !target.isPresent || target.asText?.any startTargets.contains

/-- Refuses a number for a start, which has no length. -/
def checkStart (start : Value) : Except Failure Unit :=
  match start with
  | .bool _ => .error .illTyped
  | .int _ => .error .illTyped
  | .real _ => .error .illTyped
  | _ => .ok ()

/-- Refuses a number of splits that is none. -/
def checkSplits (splits : Value) : Except Failure Unit :=
  match splits with
  | .bool _ => .ok ()
  | .int _ => .ok ()
  | .real _ => .ok ()
  | other => if other.isTruthy then .error .illTyped else .ok ()

/-- The lower case of a value can be asked for. -/
def hasLowerCase (value : Value) : Bool :=
  match value with
  | .octets _ _ => true
  | other => other.asText?.isSome

/-- The start of the variables' names. The name of the first setting is the first to which it
is put; a start that stands before no name is still compared as names are. -/
def startOf (start target : Value) (caseSensitive : Bool) : Except Failure String :=
  match start with
  | .null => .ok (if isStarted target then ({} : SourceOptions).start else "")
  | chosen =>
      if isStarted target then
        match chosen.asText? with
        | some text => .ok text
        | none => .error (.source (.noVariableName SettingField.env.name chosen))
      else if caseSensitive || hasLowerCase chosen then .ok ""
      else .error .noSuchOperation

/-- The options among keyword arguments. No variable equals a word for "absent" that is no text. -/
def ofArguments (arguments : Assoc Value) : Except Failure SourceOptions := do
  let caseSensitive := (SourceOption.caseSensitive.chosen arguments).isTruthy
  let start ← startOf (SourceOption.start.chosen arguments)
    (SourceOption.startTarget.chosen arguments) caseSensitive
  pure
    { start, caseSensitive
      skipsEmpty := (SourceOption.skipsEmpty.chosen arguments).isTruthy
      absentWord := (SourceOption.absentWord.chosen arguments).asText? }

/-- A name as it is compared. -/
def folded (options : SourceOptions) (name : String) : String :=
  if options.caseSensitive then name else lower name

/-- The value that a text in the environment stands for. -/
def meaning (options : SourceOptions) (text : String) : Value :=
  if options.absentWord = some text then .null else .text text

/-- A variable gives a value to the setting of a name. -/
def gives (options : SourceOptions) (name : String) (entry : String × String) : Bool :=
  options.folded entry.1 == options.folded (options.start ++ name)
    && !(options.skipsEmpty && entry.2 == "")

@[simp] theorem ofArguments_nil : ofArguments [] = .ok {} := rfl

end SourceOptions

namespace Environment

/-- The value that the last of its variables gives to a setting of a name. -/
def value? (environment : Environment) (options : SourceOptions) (name : String) : Option Value :=
  (environment.reverse.find? (options.gives name)).map fun entry => options.meaning entry.2

end Environment

end GrantedRoles
