import GrantedRoles.Settings.CommandLine
import GrantedRoles.Text.Casing
import GrantedRoles.Text.Integer

/-!
# Reading the words of a command line

Words are read from left to right. A setting's value stands behind its word, or in it behind an
equals sign; of several values the last one counts. Words that belong to no setting are left over,
which is refused unless it is ignored.
-/

set_option autoImplicit false

namespace GrantedRoles

open Text

/-- What a word is: no word of a setting, one that could be, or one of a setting's, with the answer
of a flag and the value after an equals sign. -/
inductive Word where
  | plain
  | unknown
  | setting (option : WordOption) (answer : Option Bool) (value : Option String)

/-- What words came to: the values of settings, by name, and the words left over. -/
structure WordReading where
  values : Assoc Value := []
  left : List String := []

namespace WordOption

/-- The words of a setting in a complaint. -/
def label (option : WordOption) : String := "/".intercalate (option.spellings.map Prod.fst)

/-- A complaint about the words of a setting. -/
def fault (option : WordOption) (complaint : String) : Failure :=
  .source (.badArguments ("argument " ++ option.label ++ ": " ++ complaint))

end WordOption

namespace CommandLine

/-! ## One word -/

/-- The setting that a word names, with the answer of a flag. -/
def find? (options : List WordOption) (word : String) : Option (WordOption × Option Bool) :=
  options.findSome? fun option => (option.spellings.lookup word).map fun answer => (option, answer)

/-- Does not end the name in a word. -/
def isNameChar (c : Char) : Bool :=
  !(isBlank c || ('\x1c' ≤ c && c ≤ '\x1f') || c = '=')

/-- A word as it is compared: unless case counts, the name in it is in lower case, and what follows
the name is a single line. -/
def folded (line : CommandLine) (word : String) : String :=
  let sign := line.sign.toList
  let unsigned := word.toList.drop sign.length
  let name := unsigned.takeWhile isNameChar
  if line.caseSensitive || !sign.isPrefixOf word.toList || name.isEmpty then word
  else
    lower (String.ofList (sign ++ name))
      ++ String.ofList ((unsigned.dropWhile isNameChar).takeWhile (· != '\n'))

/-- A number below zero, which is no name although a dash is at its head. -/
def isNegative (cs : List Char) : Bool :=
  let isDecimal (c : Char) : Bool := (decimalValue? c).isSome
  match cs with
  | '-' :: digits =>
      let unended := if digits.getLast? = some '\n' then digits.dropLast else digits
      let fraction := unended.dropWhile isDecimal
      match fraction with
      | [] => !unended.isEmpty
      | '.' :: places => !places.isEmpty && places.all isDecimal
      | _ => false
  | _ => false

/-- What a word with a sign at its head is, if no setting has it as it stands. A name of one
character may have its value right behind it. -/
def classifyLong (line : CommandLine) (options : List WordOption) (word : String) : Word :=
  let cs := word.toList
  let name := String.ofList (cs.takeWhile (· != '='))
  let value := (cs.dropWhile (· != '=')).tail?
  match value, find? options name with
  | some value, some (option, answer) => .setting option answer (some (String.ofList value))
  | _, _ =>
      let short := String.ofList (cs.take 2)
      let isShort := !(cs.drop 1).head?.any line.sign.toList.contains
      match isShort, find? options short with
      | true, some (option, none) => .setting option none (some (String.ofList (cs.drop 2)))
      | _, _ => if isNegative cs || cs.contains ' ' then .plain else .unknown

/-- What a word is. -/
def classify (line : CommandLine) (options : List WordOption) (word : String) : Word :=
  match word.toList with
  | [] => .plain
  | first :: rest =>
      if !line.sign.toList.contains first then .plain
      else
        match find? options word with
        | some (option, answer) => .setting option answer none
        | none => if rest.isEmpty then .plain else line.classifyLong options word

/-! ## All words -/

/-- The word that ends the words of settings. -/
def ending : String := "--"

/-- The value that a word stands for. -/
def meaning (line : CommandLine) (word : String) : Value :=
  if line.absentWord = some word then .null else .text word

/-- Reads words from left to right. -/
def readWords (line : CommandLine) (options : List WordOption) (reading : WordReading) :
    List String → Except Failure WordReading
  | [] => .ok reading
  | word :: rest =>
      if word = ending then .ok { reading with left := reading.left ++ word :: rest }
      else
        match line.classify options word with
        | .setting option (some answer) none =>
            line.readWords options
              { reading with values := reading.values.put option.field.name (.bool answer) } rest
        | .setting option (some _) (some value) =>
            .error (option.fault ("ignored explicit argument " ++ quotedText value))
        | .setting option none (some value) =>
            line.readWords options
              { reading with values := reading.values.put option.field.name (line.meaning value) }
              rest
        | .setting option none none =>
            match rest with
            | [] => .error (option.fault "expected one argument")
            | next :: more =>
                match line.classify options next with
                | .plain =>
                    if next = ending then .error (option.fault "expected one argument")
                    else
                      line.readWords options
                        { reading with
                          values := reading.values.put option.field.name (line.meaning next) } more
                | _ => .error (option.fault "expected one argument")
        | _ => line.readWords options { reading with left := reading.left ++ [word] } rest

/-- The values that words give to settings; nothing may be left over unless that is ignored. -/
def readAll (line : CommandLine) (options : List WordOption) (words : List String) :
    Except Failure (Assoc Value) := do
  let reading ← line.readWords options {} (words.map line.folded)
  if reading.left.isEmpty || line.ignoresUnknown then pure reading.values
  else
    .error (.source (.badArguments
      ("unrecognized arguments: " ++ " ".intercalate reading.left)))

/-- The status of a process that ends on words that it cannot read. -/
def badWordsStatus : Nat := 2

/-- The values that words give to settings. The process may end where they cannot be read. -/
def read (line : CommandLine) (options : List WordOption) (words : List String) :
    Except Failure (Assoc Value) :=
  (line.readAll options words).mapError fun failure =>
    if line.endsProcess then .ended badWordsStatus else failure

/-! ## The words to read -/

/-- A word of the command line; what counts as "no" is the empty word. -/
def wordOf (value : Value) : Except Failure String :=
  match value.asText? with
  | some word => .ok word
  | none => if value.isTruthy then .error .illTyped else .ok ""

/-- The words to read: none at all for "no", those of a process without any for "yes". -/
def wordsOf (chosen : Value) : Except Failure (List String) :=
  if chosen.same (.bool false) then .ok []
  else
    match chosen with
    | .bool _ => .ok []
    | .list items => items.mapM wordOf
    | .tuple items => items.mapM wordOf
    | other => .error (.source (.notArguments other))

/-- The values that the chosen words give to settings, by name. -/
def valuesOf (arguments : Assoc Value) : Except Failure (Assoc Value) :=
  match SourceOption.words.chosen arguments with
  | .null => .ok []
  | chosen => do
      let line ← ofArguments arguments
      let options ← SettingField.all.mapM line.optionOf
      let words ← wordsOf chosen
      line.read options words

end CommandLine

end GrantedRoles
