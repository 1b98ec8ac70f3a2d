import GrantedRoles.Failure
import GrantedRoles.Settings.Field
import GrantedRoles.Settings.Option
import GrantedRoles.Text.Identifier

/-!
# The words of settings on a command line

Every setting has a word with a sign at its head, which its value follows. A yes-or-no setting may
be a flag instead, which takes no value and gives one. A command line says how the words are made:
options choose what stands before a name, what the sign is and what else a name is called.
-/

set_option autoImplicit false

namespace GrantedRoles

open Text

/-- How yes-or-no settings are said: with a value, with a flag for each answer, or with one flag
for the answer that is not the default. -/
inductive FlagStyle where
  | valued
  | both
  | toggled
  deriving DecidableEq, Repr

/-- How words set settings: what stands before a name, which characters make a sign, whether case
counts, whether dashes stand for underscores, what else a name is called, which value counts as
absent, and whether words that cannot be read end the process. -/
structure CommandLine where
  start : String := ""
  sign : String := "-"
  caseSensitive : Bool := false
  dashed : Bool := false
  flags : FlagStyle := .valued
  ignoresUnknown : Bool := false
  endsProcess : Bool := true
  absentWord : Option String := some "null"
  shortcuts : Assoc Value := []

/-- The words of one setting; a flag comes with the answer that it gives. -/
structure WordOption where
  field : SettingField
  spellings : List (String × Option Bool)

namespace CommandLine

/-! ## The words of settings -/

/-- A name with dashes for its underscores. -/
def dashes (name : String) : String :=
  String.ofList (name.toList.map fun c => if c = '_' then '-' else c)

/-- The name of a setting on the command line. -/
def nameOf (line : CommandLine) (field : SettingField) : String :=
  let name := line.start ++ field.name
  if line.dashed then dashes name else name

/-- What a shortcut calls a name: one name, or several. -/
def aliases (value : Value) : Except Failure (List String) :=
  let named (items : List Value) : Except Failure (List String) :=
    items.mapM fun item =>
      match item.asText? with
      | some name => .ok name
      | none => .error .illTyped
  match value with
  | .list items => named items
  | .tuple items => named items
  | .dict entries => .ok (entries.map Prod.fst)
  | other => named [other]

/-- Every name of a setting on the command line. -/
def namesOf (line : CommandLine) (field : SettingField) : Except Failure (List String) := do
  let name := line.nameOf field
  let shortcuts ← (line.shortcuts.filter fun entry => entry.1 == name).mapM fun entry =>
    aliases entry.2
  pure (name :: shortcuts.flatten)

/-- A name with its sign: one character before a name of one, two before any other. -/
def signed (line : CommandLine) (name : String) : String :=
  String.ofList ((line.sign ++ line.sign).toList.take name.length) ++ name

/-- What makes a flag say "no". -/
def noStart : String := "no-"

/-- The words of a flag: for a name, or for each answer if its sign is two dashes. -/
def spellFlag (line : CommandLine) (field : SettingField) (name : String) :
    List (String × Option Bool) :=
  match line.flags with
  | .valued => [(line.signed name, none)]
  | .toggled =>
      if field.standard.isTruthy then [(line.signed (noStart ++ name), some false)]
      else [(line.signed name, some true)]
  | .both =>
      let yes := (line.signed name, some true)
      if (line.signed name).startsWith "--" then [yes, ("--" ++ noStart ++ name, some false)]
      else [yes]

/-- The words of a setting. -/
def optionOf (line : CommandLine) (field : SettingField) : Except Failure WordOption := do
  let names ← line.namesOf field
  pure
    { field
      spellings := names.flatMap fun name =>
        if field.kind = .flag then line.spellFlag field name else [(line.signed name, none)] }

/-! ## Choosing -/

/-- What stands before names: a text that is an identifier but for its dots, none at an end, and
a dot after it. -/
def startOf (chosen : Value) : Except Failure String :=
  if !chosen.isTruthy then
    match chosen with
    | .null => .ok ""
    | .text _ => .ok ""
    | _ => .error .illTyped
  else
    match chosen with
    | .octets _ _ => .error .illTyped
    | other =>
        match other.asText? with
        | none => .error .noSuchOperation
        | some start =>
            let cs := start.toList
            if cs.head? = some '.' || cs.getLast? = some '.'
                || !isIdentifier (cs.filter (· != '.')) then
              .error (.source (.badOptionStart start))
            else .ok (start ++ ".")

/-- The characters that make a sign. -/
def signOf (chosen : Value) : Except Failure String :=
  match chosen with
  | .null => .ok "-"
  | other =>
      match other.asText? with
      | none => .error .illTyped
      | some "" => .error .noHead
      | some sign => .ok sign

/-- Names with what else they are called. -/
def shortcutsOf (chosen : Value) : Except Failure (Assoc Value) :=
  match chosen with
  | .dict entries => .ok entries
  | other => if other.isTruthy then .error .noSuchOperation else .ok []

/-- How yes-or-no settings are said. -/
def flagsOf (chosen : Value) : FlagStyle :=
  if !chosen.isTruthy then .valued
  else if chosen.asText? = some "toggle" then .toggled
  else .both

/-- The word for an absent value; without one, the settings' own. -/
def absentWordOf (chosen avoidsJson : Value) : Option String :=
  if chosen.isTruthy then chosen.asText?
  else
    match avoidsJson with
    | .bool true => some Value.null.literal
    | _ => some "null"

/-- The command line that options describe. -/
def ofArguments (arguments : Assoc Value) : Except Failure CommandLine := do
  let start ← startOf (SourceOption.wordStart.chosen arguments)
  let sign ← signOf (SourceOption.wordSign.chosen arguments)
  let shortcuts ← shortcutsOf (SourceOption.wordShortcuts.chosen arguments)
  pure
    { start, sign, shortcuts
      caseSensitive := (SourceOption.caseSensitive.chosen arguments).isTruthy
      dashed := (SourceOption.dashedWords.chosen arguments).isTruthy
      flags := flagsOf (SourceOption.flagWords.chosen arguments)
      ignoresUnknown := (SourceOption.ignoresUnknownWords.chosen arguments).isTruthy
      endsProcess :=
        let chosen := SourceOption.wordsEndProcess.chosen arguments
        !chosen.isPresent || chosen.isTruthy
      absentWord := absentWordOf (SourceOption.wordForAbsent.chosen arguments)
        (SourceOption.wordsAvoidJson.chosen arguments) }

end CommandLine

end GrantedRoles
