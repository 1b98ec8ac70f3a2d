import GrantedRoles.Assoc
import GrantedRoles.Value

/-!
# Options of the sources of settings

Beside the settings, a caller may name options: how variables are called, which files and words are
read, and whether anything is read at all. An option has one keyword, compared exactly; without a
value it is not chosen. Options that decide nothing for settings like these, which are single
values with defaults, are known too and inert.
-/

set_option autoImplicit false

namespace GrantedRoles

/-- An option that decides where the values of settings come from. Variables have a start, files a
depth, and words of a command line a start, a sign at their head and a word for "absent". -/
inductive SourceOption where
  | start
  | startTarget
  | caseSensitive
  | skipsEmpty
  | absentWord
  | nestedSplits
  | files
  | fileDepth
  | secrets
  | sources
  | words
  | wordStart
  | wordSign
  | wordShortcuts
  | wordForAbsent
  | wordsAvoidJson
  | wordsEndProcess
  | flagWords
  | ignoresUnknownWords
  | dashedWords
  deriving DecidableEq, Repr

namespace SourceOption

/-- Every option that decides something. -/
def all : List SourceOption :=
  [start, startTarget, caseSensitive, skipsEmpty, absentWord, nestedSplits, files, fileDepth,
    secrets, sources, words, wordStart, wordSign, wordShortcuts, wordForAbsent, wordsAvoidJson,
    wordsEndProcess, flagWords, ignoresUnknownWords, dashedWords]

/-- The keyword of an option. -/
def keyword : SourceOption → String
  | start => "_env_prefix"
  | startTarget => "_env_prefix_target"
  | caseSensitive => "_case_sensitive"
  | skipsEmpty => "_env_ignore_empty"
  | absentWord => "_env_parse_none_str"
  | nestedSplits => "_env_nested_max_split"
  | files => "_env_file"
  | fileDepth => "_env_file_depth"
  | secrets => "_secrets_dir"
  | sources => "_build_sources"
  | words => "_cli_parse_args"
  | wordStart => "_cli_prefix"
  | wordSign => "_cli_flag_prefix_char"
  | wordShortcuts => "_cli_shortcuts"
  | wordForAbsent => "_cli_parse_none_str"
  | wordsAvoidJson => "_cli_avoid_json"
  | wordsEndProcess => "_cli_exit_on_error"
  | flagWords => "_cli_implicit_flags"
  | ignoresUnknownWords => "_cli_ignore_unknown_args"
  | dashedWords => "_cli_kebab_case"

/-- The keywords of inert options. -/
def inertKeywords : List String :=
  ["_nested_model_default_partial_update", "_env_file_encoding", "_env_nested_delimiter",
    "_env_parse_enums", "_cli_prog_name", "_cli_settings_source", "_cli_hide_none_type",
    "_cli_enforce_required", "_cli_use_class_docs_for_groups", "_cli_show_env_vars"]

/-- The keyword that names the object itself and so takes no value. -/
def selfKeyword : String := "__pydantic_self__"

/-- The name is the keyword of an option. -/
def isKeyword (name : String) : Bool :=
  all.any (·.keyword == name) || inertKeywords.contains name

/-- What the arguments choose for an option; null if nothing. -/
def chosen (option : SourceOption) (arguments : Assoc Value) : Value :=
  (arguments.get? option.keyword).getD .null

theorem mem_all (option : SourceOption) : option ∈ all := by
  cases option <;> decide

@[simp] theorem isKeyword_keyword (option : SourceOption) : isKeyword option.keyword = true := by
  cases option <;> rfl

@[simp] theorem chosen_nil (option : SourceOption) : option.chosen [] = .null := rfl

end SourceOption

end GrantedRoles
