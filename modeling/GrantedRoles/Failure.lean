import GrantedRoles.SearchFilter.Template
import GrantedRoles.Text.Integer
import GrantedRoles.Value

/-!
# Failures

Every way in which an operation of this library fails, each as its cause; `Failure.message` puts
it into words and `Failure.cause?` names the failure that it wraps. Failures of configuration and
of searching are the library's own (`Failure.isOwn`): a caller that denies access on exactly those
needs no other test. What a collaborator raises passes through unchanged.
-/

set_option autoImplicit false

namespace GrantedRoles

open SearchFilter Text

/-- Parts of a configuration that must be present. -/
inductive Required where
  | groupSearchFilter
  | groupRoleAttribute
  | searchScope
  | rolePrefix
  | convertToUpperCase
  | searchSubtree
  | defaultRole
  | searchBase
  | connectionFactory
  | rootDn
  | gateway
  deriving DecidableEq, Repr

/-- What is said when a required part is absent. -/
def Required.absence : Required → String
  | groupSearchFilter => "group_search_filter must not be None"
  | groupRoleAttribute => "group_role_attribute must not be None"
  | searchScope => "search_scope must not be None"
  | rolePrefix => "role_prefix must not be None"
  | convertToUpperCase => "convert_to_upper_case must not be None"
  | searchSubtree => "search_subtree must not be None"
  | defaultRole => "default_role cannot be set to None"
  | searchBase => "group_search_base (name to search under) must not be None"
  | connectionFactory => "connection_factory must not be None"
  | rootDn => "root_dn must not be None (use an empty string for none)"
  | gateway => "gateway must not be None"

/-- Why a configuration is refused. -/
inductive ConfigurationFault where
  | absent (part : Required)
  | unknownScope (value : Value)
  | upperCaseNotBool (value : Value)
  | subtreeNotBool (value : Value)
  | noDirectoryUrl
  | stated (message : String)

/-- The refusal in words. -/
def ConfigurationFault.message : ConfigurationFault → String
  | absent part => part.absence
  | unknownScope value => "Unknown search scope " ++ value.literal
  | upperCaseNotBool value => "convert_to_upper_case must be a bool, got " ++ value.literal
  | subtreeNotBool value => "search_subtree must be a bool, got " ++ value.literal
  | noDirectoryUrl => "ldap_url must be set to search the directory"
  | stated message => message

/-- A failure that the directory client reports: its kind and what it says. -/
structure DirectoryFault where
  kind : String
  message : String
  deriving DecidableEq, Repr

/-- The failure of a kind that the client reports with a message. A kind that stands for a result
says six parts beside its name, of which only the first is known; a kind about keys quotes the
message; and a kind about retries says what it is. -/
def DirectoryFault.ofKind (kind message : String) : DirectoryFault :=
  if kind.endsWith "Result" then
    let first := if message = "" then "None" else message
    ⟨kind, " - ".intercalate ([kind, first] ++ List.replicate 5 "None")⟩
  else if kind = "LDAPKeyError" then ⟨kind, quotedText message⟩
  else if kind = "LDAPMaximumRetriesError" then ⟨kind, kind ++ ": " ++ message⟩
  else ⟨kind, message⟩

/-- Why a search could not be completed. -/
inductive SearchFault where
  | malformedFilter (template : String) (fault : TemplateFault)
  | unsupportedPlaceholder (template : String) (name : String)
  | missingParameters (template : String) (indexes : List Nat) (supplied : Nat)
  | noConnection (fault : DirectoryFault)
  | interrupted (base : Value) (filter : String) (fault : DirectoryFault)
  | noResult (base : Value) (filter : String)
  | refused (base : Value) (filter : String) (description code : Value)
  | stated (message : String)

/-- The failed search in words. -/
def SearchFault.message : SearchFault → String
  | malformedFilter template fault =>
      "Malformed search filter " ++ quotedText template ++ ": " ++ fault.message
  | unsupportedPlaceholder template name =>
      "Search filter " ++ quotedText template ++ " has unsupported placeholder \x7b" ++ name
        ++ "\x7d"
  | missingParameters template indexes supplied =>
      "Search filter " ++ quotedText template ++ " references parameter(s) ["
        ++ ", ".intercalate (indexes.map toString) ++ "] but only " ++ toString supplied
        ++ " are supplied"
  | noConnection fault => "Could not connect to directory: " ++ fault.message
  | interrupted base filter fault =>
      "Search in " ++ base.literal ++ " with filter " ++ quotedText filter ++ " failed: "
        ++ fault.message
  | noResult base filter =>
      "Search in " ++ base.literal ++ " with filter " ++ quotedText filter ++ " returned no result"
  | refused base filter description code =>
      "Search in " ++ base.literal ++ " with filter " ++ quotedText filter ++ " failed: "
        ++ description.display ++ " (" ++ code.display ++ ")"
  | stated message => message

/-- A value of the right type that makes no sense where it stands. -/
inductive ValueFault where
  | notInteger (value : Value)
  | notANumber
  | tooManyDigits (count : Nat)
  | unwritable
  | notScope (value : Value)
  | notLevel (value : String)
  | noSuchSetting (name : String)
  | nulInText
  | equalsInVariable
  | nulInClassName
  | notPair (count : Nat)
  | notDepth
  | stated (message : String)

/-- The senseless value in words; of a long text only the beginning is quoted. -/
def ValueFault.message : ValueFault → String
  | notInteger value =>
      "invalid literal for int() with base 10: " ++ String.ofList (value.literal.toList.take 200)
  | notANumber => "cannot convert float NaN to integer"
  | tooManyDigits count =>
      "Exceeds the limit (" ++ toString maxDigits
        ++ " digits) for integer string conversion: value has " ++ toString count
        ++ " digits; use sys.set_int_max_str_digits() to increase the limit"
  | unwritable =>
      "Exceeds the limit (" ++ toString maxDigits
        ++ " digits) for integer string conversion; use sys.set_int_max_str_digits() to increase"
        ++ " the limit"
  | notScope value => value.literal ++ " is not a valid SearchScope"
  | notLevel value => "Unknown level: " ++ quotedText value
  | noSuchSetting name => "\"Settings\" object has no field \"" ++ name ++ "\""
  | nulInText => "embedded null byte"
  | equalsInVariable => "illegal environment variable name"
  | nulInClassName => "type name must not contain null characters"
  | notPair count =>
      if count < 2 then
        "not enough values to unpack (expected 2, got " ++ toString count ++ ")"
      else "too many values to unpack (expected 2)"
  | notDepth =>
      "Stop argument for islice() must be None or an integer: 0 <= x <= sys.maxsize."
  | stated message => message

/-- A number that is too large for what it should become. -/
inductive RangeFault where
  | infiniteInteger
  | hugeReal
  deriving DecidableEq, Repr

/-- The number in words. -/
def RangeFault.message : RangeFault → String
  | infiniteInteger => "cannot convert float infinity to integer"
  | hugeReal => "int too large to convert to float"

/-- Why the value given for one setting is refused. -/
inductive SettingFault where
  | notListed
  | notText
  | notUtf8
  | notBool
  | notBoolWord
  | unknown
  deriving DecidableEq, Repr

/-- The short name of the refusal. -/
def SettingFault.code : SettingFault → String
  | notListed => "literal_error"
  | notText => "string_type"
  | notUtf8 => "string_unicode"
  | notBool => "bool_type"
  | notBoolWord => "bool_parsing"
  | unknown => "extra_forbidden"

/-- The refusal in words. -/
def SettingFault.message : SettingFault → String
  | notListed => "Input should be 'dev', 'test' or 'prod'"
  | notText => "Input should be a valid string"
  | notUtf8 => "Input should be a valid string, unable to parse raw data as a unicode string"
  | notBool => "Input should be a valid boolean"
  | notBoolWord => "Input should be a valid boolean, unable to interpret input"
  | unknown => "Extra inputs are not permitted"

/-- A refused setting: under which name it was given, and why it is refused. -/
structure SettingError where
  name : String
  fault : SettingFault
  deriving DecidableEq, Repr

/-- Why the sources of settings cannot be read. -/
inductive SourceFault where
  | noVariableName (setting : String) (start : Value)
  | notArguments (given : Value)
  | badOptionStart (start : String)
  | badArguments (reason : String)
  | notDirectory (kind : String)

/-- The unreadable source in words. -/
def SourceFault.message : SourceFault → String
  | noVariableName setting _ =>
      "error getting value for field \"" ++ setting ++ "\" from source \"EnvSettingsSource\""
  | notArguments given =>
      "cli_parse_args must be a list or tuple of strings, received " ++ given.typeText
  | badOptionStart start => "CLI settings source prefix is invalid: " ++ start
  | badArguments reason => "error parsing CLI: " ++ reason
  | notDirectory kind => "secrets_dir must reference a directory, not a " ++ kind

/-- What is said of a value to which a text cannot be added. -/
def noSumMessage : Value → String
  | .list _ => "can only concatenate list (not \"str\") to list"
  | .tuple _ => "can only concatenate tuple (not \"str\") to tuple"
  | .octets _ growable => "can't concat str to " ++ if growable then "bytearray" else "bytes"
  | other => "unsupported operand type(s) for +: '" ++ other.typeName ++ "' and 'str'"

/-- Failures that collaborators and the system raise. -/
inductive ForeignKind where
  | runtime
  | system
  | timeout
  | index
  deriving DecidableEq, Repr

/-- A failed operation. What a collaborator raises may be of any other kind too: then it is known by
its name, by what it says and by what it was raised from. -/
inductive Failure where
  | configuration (fault : ConfigurationFault)
  | search (fault : SearchFault)
  | directory (fault : DirectoryFault)
  | foreign (kind : ForeignKind) (message : String)
  | value (fault : ValueFault)
  | range (fault : RangeFault)
  | illTyped
  | noSum (operand : Value)
  | noSuchOperation
  | missingKey (key : Value)
  | frozen (field : String)
  | source (fault : SourceFault)
  | ended (status : Nat)
  | settings (errors : List SettingError)
  | raised (kind message : String) (cause : Option Failure)

namespace Failure

/-- One of the library's own failures, about configuration or searching. -/
def isOwn : Failure → Bool
  | configuration _ => true
  | search _ => true
  | _ => false

/-- The failure in words. Wrong types and missing operations are named by their kind alone, as is a
missing key that cannot be written, and refused settings by their list. -/
def message? : Failure → Option String
  | configuration fault => some fault.message
  | search fault => some fault.message
  | directory fault => some fault.message
  | foreign _ message => some message
  | value fault => some fault.message
  | range fault => some fault.message
  | illTyped => none
  | noSum operand => some (noSumMessage operand)
  | noSuchOperation => none
  | missingKey key => if key.isWritable then some key.literal else none
  | frozen field => some ("cannot assign to field " ++ quotedText field)
  | source fault => some fault.message
  | ended status => some (toString status)
  | settings _ => none
  | raised _ message _ => some message

/-- The failure that this one was raised from. -/
def cause? : Failure → Option Failure
  | search (.malformedFilter _ fault) => some (.value (.stated fault.message))
  | search (.noConnection fault) => some (.directory fault)
  | search (.interrupted _ _ fault) => some (.directory fault)
  | source (.noVariableName _ start) => some (.noSum start)
  | raised _ _ cause => cause
  | _ => none

/-- A value has no text: an integer in it is too long. -/
def unwritable : Failure := .value .unwritable

/-- A failure that quotes values. Where one of them has no text, that is the failure. -/
def quoting (values : List Value) (failure : Failure) : Failure :=
  if values.all Value.isWritable then failure else unwritable

/-- A required part is absent. -/
def absent (part : Required) : Failure := .configuration (.absent part)

/-- A value that should write an integer does not. -/
def ofInteger (value : Value) : IntegerFault → Failure
  | .malformed => .value (.notInteger value)
  | .tooLong count => .value (.tooManyDigits count)

/-- The operating system does not take an argument. -/
def badArgument : Failure := .foreign .system "[Errno 22] Invalid argument"

/-- The operating system does not take a name that is too long. -/
def longName (path : String) : Failure :=
  .foreign .system ("[Errno 36] File name too long: " ++ quotedText path)

/-- Nobody's home can be found under a name. -/
def noHome : Failure := .foreign .runtime "Could not determine home directory."

/-- A template is formatted with fewer arguments than it refers to. -/
def noArgument : Failure := .foreign .index "Replacement index out of range for positional args tuple"

/-- A text has no character at its head. -/
def noHead : Failure := .foreign .index "string index out of range"

end Failure

/-- Refuses an absent value. -/
def require (v : Value) (part : Required) : Except Failure Unit :=
  if v.isPresent then .ok () else .error (.absent part)

/-- Refuses an absent value with the words of the caller. -/
def requireWith (v : Value) (message : String) : Except Failure Unit :=
  if v.isPresent then .ok () else .error (.configuration (.stated message))

namespace Scope

/-- The scope that a value is or whose word it is. -/
def ofValue (v : Value) : Except Failure Scope :=
  match v.asText?.bind ofWord? with
  | some s => .ok s
  | none => .error (.quoting [v] (.value (.notScope v)))

end Scope

end GrantedRoles
