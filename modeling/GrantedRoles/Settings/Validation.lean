import GrantedRoles.Failure
import GrantedRoles.Settings.Field

/-!
# Validating settings

A value is accepted if it is of the setting's kind or stands for one: octets for the text that
they are in UTF-8, words and the numbers zero and one for truth values. The accepted value is what
the setting then holds.
-/

set_option autoImplicit false

namespace GrantedRoles

open Number Text

namespace SettingKind

/-- The environments that a process can run in. -/
def environments : List String := ["dev", "test", "prod"]

/-- Words for "no", in lower case. -/
def noWords : List String := ["0", "off", "f", "false", "n", "no"]

/-- Words for "yes", in lower case. -/
def yesWords : List String := ["1", "on", "t", "true", "y", "yes"]

/-- The truth value of a word; only the ASCII letters have two cases here. -/
def ofWord (word : String) : Except SettingFault Value :=
  let lowered := String.ofList (word.toList.map Char.toLower)
  if yesWords.contains lowered then .ok (.bool true)
  else if noWords.contains lowered then .ok (.bool false)
  else .error .notBoolWord

/-- The truth value of a number: of those that fit sixty-four bits, zero and one have one. -/
def ofNumber (n : Int) : Except SettingFault Value :=
  if n = 0 then .ok (.bool false)
  else if n = 1 then .ok (.bool true)
  else if -(twoTo 63 : Int) ≤ n ∧ n < twoTo 63 then .error .notBoolWord
  else .error .notBool

/-- Accepts a text. -/
def acceptText (value : Value) : Except SettingFault Value :=
  match value with
  | .text s => .ok (.text s)
  | .scope s => .ok (.text s.word)
  | .octets os _ =>
      match ofUtf8? os with
      | some s => .ok (.text s)
      | none => .error .notUtf8
  | _ => .error .notText

/-- Accepts a truth value. -/
def acceptFlag (value : Value) : Except SettingFault Value :=
  match value with
  | .bool b => .ok (.bool b)
  | .int n => ofNumber n
  | .text s => ofWord s
  | .scope s => ofWord s.word
  | .octets os false =>
      match ofUtf8? os with
      | some s => ofWord s
      | none => .error .notBoolWord
  | .real x =>
      match x.toInt? with
      | some n => if n = -(twoTo 63 : Int) then .error .notBool else ofNumber n
      | none => .error .notBool
  | _ => .error .notBool

/-- Accepts a value of a kind. -/
def accept (kind : SettingKind) (value : Value) : Except SettingFault Value :=
  match kind with
  | environment =>
      match value with
      | .text s => if environments.contains s then .ok (.text s) else .error .notListed
      | _ => .error .notListed
  | text => acceptText value
  | optionalText => if value.isPresent then acceptText value else .ok .null
  | flag => acceptFlag value

end SettingKind

end GrantedRoles
