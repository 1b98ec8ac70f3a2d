import Mathlib.Logic.ExistsUnique
import Mathlib.Tactic.Choose
import GrantedRoles.Proofs.Settings.Acceptance

/-!
# Where settings take their values from

Without options there are three places: a keyword argument, a variable of the environment, the
default. `Settings.Resolves` says for one setting which of them counts. An argument goes before any
variable, and of several arguments for the setting the first one counts; of several variables for it
the last. All these names are compared in lower case. Making settings comes to this, setting by
setting (`Settings.construct_of_plain`), and a variable that does not count is not even looked at
(`Settings.construct_without_variable`).
-/

set_option autoImplicit false

namespace GrantedRoles

open Text

/-! ## Names -/

/-- No argument is named like an option, which all have an underscore at their heads. -/
def Assoc.PlainNames (arguments : Assoc Value) : Prop :=
  ∀ entry ∈ arguments, entry.1.toList.head? ≠ some '_'

/-- The name of a variable for a setting, in lower case. -/
def SettingField.variableName (field : SettingField) : String := "ldap_authz_" ++ field.name

theorem SettingField.lower_start_append (field : SettingField) :
    lower (({} : SourceOptions).start ++ field.name) = field.variableName := by
  cases field <;> decide +kernel

theorem SettingField.name_injective {field other : SettingField} (h : field.name = other.name) :
    field = other := by
  have hsome : some field = some other := by
    rw [← ofName?_name field, h, ofName?_name]
  exact Option.some.inj hsome

namespace Assoc.PlainNames

variable {arguments : Assoc Value}

theorem get?_eq_none (h : arguments.PlainNames) {key : String}
    (hkey : key.toList.head? = some '_') : arguments.get? key = none := by
  apply Assoc.get?_eq_none
  intro hmem
  obtain ⟨entry, hentry, rfl⟩ := List.mem_map.1 hmem
  exact h entry hentry hkey

/-- No option is chosen. -/
theorem chosen_eq_null (h : arguments.PlainNames) (option : SourceOption) :
    option.chosen arguments = .null := by
  have hkey : option.keyword.toList.head? = some '_' := by cases option <;> decide
  rw [SourceOption.chosen, h.get?_eq_none hkey]
  rfl

theorem isKeyword_eq_false (h : arguments.PlainNames) {entry : String × Value}
    (hentry : entry ∈ arguments) : SourceOption.isKeyword entry.1 = false := by
  have hoptions : ∀ option ∈ SourceOption.all, option.keyword.toList.head? = some '_' := by decide
  have hinert : ∀ keyword ∈ SourceOption.inertKeywords, keyword.toList.head? = some '_' := by
    decide
  rw [SourceOption.isKeyword, Bool.or_eq_false_iff]
  constructor
  · rw [List.any_eq_false]
    intro option hoption heq
    rw [beq_iff_eq] at heq
    exact h entry hentry (heq ▸ hoptions option hoption)
  · rw [← Bool.not_eq_true, List.contains_iff_mem]
    intro hmem
    exact h entry hentry (hinert _ hmem)

/-- Unknown are the arguments whose names are no setting's in lower case. -/
theorem unknownArguments_eq_nil_iff (h : arguments.PlainNames) :
    Settings.Origin.unknownArguments arguments = [] ↔
      ∀ entry ∈ arguments, ∃ field : SettingField, lower entry.1 = field.name := by
  unfold Settings.Origin.unknownArguments
  rw [List.map_eq_nil_iff, List.filter_eq_nil_iff]
  apply forall₂_congr
  intro entry hentry
  rw [h.isKeyword_eq_false hentry]
  constructor
  · intro hknown
    cases hfield : SettingField.ofName? (lower entry.1) with
    | none => simp [hfield] at hknown
    | some field =>
      have hname := List.find?_some hfield
      exact ⟨field, (beq_iff_eq.1 hname).symm⟩
  · rintro ⟨field, hname⟩
    simp [hname]

end Assoc.PlainNames

namespace Settings

/-! ## One setting -/

/-- What is given for a setting: the first argument for it, or else the last variable, or
nothing. -/
inductive Resolves (environment : Environment) (arguments : Assoc Value) (field : SettingField) :
    Option Value → Prop
  | byArgument (before after : Assoc Value) {keyword : String} {value : Value}
      (hplace : arguments = before ++ (keyword, value) :: after)
      (hname : lower keyword = field.name)
      (hfirst : ∀ entry ∈ before, lower entry.1 ≠ field.name) :
      Resolves environment arguments field (some value)
  | byVariable (before after : Environment) {name text : String}
      (hnone : ∀ entry ∈ arguments, lower entry.1 ≠ field.name)
      (hplace : environment = before ++ (name, text) :: after)
      (hname : lower name = field.variableName)
      (hlast : ∀ entry ∈ after, lower entry.1 ≠ field.variableName) :
      Resolves environment arguments field (some (.text text))
  | byDefault (hnone : ∀ entry ∈ arguments, lower entry.1 ≠ field.name)
      (hunset : ∀ entry ∈ environment, lower entry.1 ≠ field.variableName) :
      Resolves environment arguments field none

variable {environment : Environment} {arguments : Assoc Value} {field : SettingField}

theorem argument?_eq_none_iff :
    argument? arguments field = none ↔ ∀ entry ∈ arguments, lower entry.1 ≠ field.name := by
  unfold argument?
  rw [Option.map_eq_none_iff, List.find?_eq_none]
  simp

theorem argument?_eq_some_iff {value : Value} :
    argument? arguments field = some value ↔
      ∃ before keyword after, arguments = before ++ (keyword, value) :: after ∧
        lower keyword = field.name ∧ ∀ entry ∈ before, lower entry.1 ≠ field.name := by
  unfold argument?
  rw [Option.map_eq_some_iff]
  constructor
  · rintro ⟨⟨keyword, _⟩, hfound, rfl⟩
    obtain ⟨hname, before, after, hplace, hfirst⟩ := List.find?_eq_some_iff_append.1 hfound
    refine ⟨before, keyword, after, hplace, beq_iff_eq.1 hname, ?_⟩
    intro entry hentry
    simpa using hfirst entry hentry
  · rintro ⟨before, keyword, after, hplace, hname, hfirst⟩
    refine ⟨(keyword, value), ?_, rfl⟩
    refine List.find?_eq_some_iff_append.2 ⟨beq_iff_eq.2 hname, before, after, hplace, ?_⟩
    intro entry hentry
    simpa using hfirst entry hentry

/-- A variable gives a value to the setting whose name it has. -/
theorem gives_iff {entry : String × String} :
    ({} : SourceOptions).gives field.name entry = true ↔ lower entry.1 = field.variableName := by
  rw [← field.lower_start_append]
  simp [SourceOptions.gives, SourceOptions.folded]

theorem value?_eq_none_iff :
    environment.value? {} field.name = none ↔
      ∀ entry ∈ environment, lower entry.1 ≠ field.variableName := by
  unfold Environment.value?
  rw [Option.map_eq_none_iff, List.find?_eq_none]
  simp [gives_iff]

theorem value?_eq_some_iff {value : Value} :
    environment.value? {} field.name = some value ↔
      ∃ before name text after, environment = before ++ (name, text) :: after ∧
        value = .text text ∧ lower name = field.variableName ∧
        ∀ entry ∈ after, lower entry.1 ≠ field.variableName := by
  have hmeaning (text : String) : ({} : SourceOptions).meaning text = .text text :=
    if_neg (by simp)
  unfold Environment.value?
  rw [Option.map_eq_some_iff]
  -- The last variable is the first one from the end.
  constructor
  · rintro ⟨⟨name, text⟩, hfound, rfl⟩
    obtain ⟨hname, after, before, hplace, hlast⟩ := List.find?_eq_some_iff_append.1 hfound
    refine ⟨before.reverse, name, text, after.reverse, ?_, hmeaning text, gives_iff.1 hname, ?_⟩
    · have hreversed := congrArg List.reverse hplace
      simpa using hreversed
    · intro entry hentry heq
      have hother := hlast entry (List.mem_reverse.1 hentry)
      rw [gives_iff.2 heq] at hother
      cases hother
  · rintro ⟨before, name, text, after, hplace, rfl, hname, hlast⟩
    refine ⟨(name, text), ?_, hmeaning text⟩
    refine List.find?_eq_some_iff_append.2
      ⟨gives_iff.2 hname, after.reverse, before.reverse, ?_, ?_⟩
    · rw [hplace]
      simp
    · intro entry hentry
      rw [Bool.not_eq_true', ← Bool.not_eq_true, gives_iff]
      exact hlast entry (List.mem_reverse.1 hentry)

/-- **One setting.** What is given for it is what the rules say, and nothing else. -/
theorem resolves_iff {given : Option Value} :
    Resolves environment arguments field given ↔
      (⟨environment, {}, arguments, []⟩ : Origin).given? field = given := by
  change _ ↔ (argument? arguments field).or (environment.value? {} field.name) = given
  constructor
  · intro h
    cases h with
    | byArgument before after hplace hname hfirst =>
      rw [argument?_eq_some_iff.2 ⟨_, _, _, hplace, hname, hfirst⟩, Option.some_or]
    | byVariable before after hnone hplace hname hlast =>
      rw [argument?_eq_none_iff.2 hnone, Option.none_or]
      exact value?_eq_some_iff.2 ⟨_, _, _, _, hplace, rfl, hname, hlast⟩
    | byDefault hnone hunset =>
      rw [argument?_eq_none_iff.2 hnone, Option.none_or]
      exact value?_eq_none_iff.2 hunset
  · rintro rfl
    cases hargument : argument? arguments field with
    | some value =>
      obtain ⟨before, keyword, after, hplace, hname, hfirst⟩ := argument?_eq_some_iff.1 hargument
      exact .byArgument before after hplace hname hfirst
    | none =>
      have hnone := argument?_eq_none_iff.1 hargument
      rw [Option.none_or]
      cases hvariable : environment.value? {} field.name with
      | none => exact .byDefault hnone (value?_eq_none_iff.1 hvariable)
      | some value =>
        obtain ⟨before, name, text, after, hplace, rfl, hname, hlast⟩ :=
          value?_eq_some_iff.1 hvariable
        exact .byVariable before after hnone hplace hname hlast

/-! ## All settings -/

/-- Plain arguments and the environment are all that settings are made of. -/
theorem construct_of_plain (machine : Machine) (environment : Environment)
    (h : arguments.PlainNames) :
    construct machine environment arguments
      = (⟨environment, {}, arguments, []⟩ : Origin).settings := by
  have hself : arguments.get? SourceOption.selfKeyword = none := h.get?_eq_none (by decide)
  have horigin : Origin.ofArguments machine environment arguments
      = .ok ⟨environment, {}, arguments, []⟩ := by
    have hoptions : SourceOptions.ofArguments arguments = .ok {} := by
      unfold SourceOptions.ofArguments
      simp only [h.chosen_eq_null]
      rfl
    have hwords : CommandLine.valuesOf arguments = .ok [] := by
      rw [CommandLine.valuesOf, h.chosen_eq_null]
    have hfiles : Location.lookForFiles machine environment arguments = .ok () := by
      unfold Location.lookForFiles
      rw [h.chosen_eq_null]
      rfl
    have hsecrets : Location.lookForSecrets machine environment arguments = .ok () := by
      unfold Location.lookForSecrets
      rw [h.chosen_eq_null]
      rfl
    unfold Origin.ofArguments
    rw [hoptions, hwords, hfiles, hsecrets, h.chosen_eq_null, h.chosen_eq_null]
    rfl
  unfold construct
  rw [hself, h.chosen_eq_null, horigin]
  rfl

/-- A variable counts for no setting if it is named after none, or if an argument or a later
variable goes before it. -/
def Idle (arguments : Assoc Value) (name : String) (after : Environment) : Prop :=
  ∀ field : SettingField, lower name = field.variableName →
    (∃ entry ∈ arguments, lower entry.1 = field.name) ∨
      ∃ entry ∈ after, lower entry.1 = field.variableName

/-- What is given for a setting does not depend on a variable that does not count. -/
theorem Resolves.without_variable {before after : Environment} {name text : String}
    (h : Idle arguments name after) {given : Option Value}
    (hresolves : Resolves (before ++ after) arguments field given) :
    Resolves (before ++ (name, text) :: after) arguments field given := by
  cases hresolves with
  | byArgument first rest hplace hname hfirst => exact .byArgument first rest hplace hname hfirst
  | byDefault hnone hunset =>
    refine .byDefault hnone ?_
    intro entry hentry
    rcases List.mem_append.1 hentry with hentry | hentry
    · exact hunset entry (List.mem_append_left _ hentry)
    · rcases List.mem_cons.1 hentry with rfl | hentry
      · intro heq
        -- Were it named after the setting, an argument or a later variable would be there.
        rcases h field heq with ⟨other, hother, hname⟩ | ⟨other, hother, hname⟩
        · exact hnone other hother hname
        · exact hunset other (List.mem_append_right _ hother) hname
      · exact hunset entry (List.mem_append_right _ hentry)
  | byVariable earlier later hnone hplace hname hlast =>
    rcases List.append_eq_append_iff.1 hplace with ⟨middle, rfl, hafter⟩ | ⟨middle, hbefore, hafter⟩
    · -- The variable that counts is behind the idle one.
      refine .byVariable (before ++ (name, text) :: middle) later hnone ?_ hname hlast
      rw [hafter, List.append_assoc]
      rfl
    · cases middle with
      | nil =>
        rw [List.nil_append] at hafter
        refine .byVariable (before ++ [(name, text)]) later hnone ?_ hname hlast
        rw [List.append_assoc, hafter]
        rfl
      | cons first middle =>
        -- The variable that counts is before the idle one, which is then none of the setting.
        rw [List.cons_append, List.cons.injEq] at hafter
        obtain ⟨rfl, rfl⟩ := hafter
        refine .byVariable earlier (middle ++ (name, text) :: after) hnone ?_ hname ?_
        · rw [hbefore, List.append_assoc]
          rfl
        · intro entry hentry
          rcases List.mem_append.1 hentry with hentry | hentry
          · exact hlast entry (List.mem_append_left _ hentry)
          · rcases List.mem_cons.1 hentry with rfl | hentry
            · intro heq
              rcases h field heq with ⟨other, hother, hother'⟩ | ⟨other, hother, hother'⟩
              · exact hnone other hother hother'
              · exact hlast other (List.mem_append_right _ hother) hother'
            · exact hlast entry (List.mem_append_right _ hentry)

/-- Settings are the same if the same is given for each of them. -/
theorem Origin.settings_congr {origin other : Origin}
    (hgiven : ∀ field, origin.given? field = other.given? field)
    (harguments : origin.arguments = other.arguments) : origin.settings = other.settings := by
  have hresolve : origin.resolve = other.resolve := by
    funext field
    unfold Origin.resolve
    rw [hgiven field]
  have hrefusal : origin.refusal? = other.refusal? := by
    funext field
    unfold Origin.refusal?
    rw [hresolve]
  have haccepted : origin.accepted = other.accepted := by
    funext field
    unfold Origin.accepted
    rw [hresolve]
  unfold Origin.settings Origin.refusals
  rw [hrefusal, haccepted, harguments]

/-- A variable that does not count changes nothing about how settings are made, not even if its
text would be refused. -/
theorem construct_without_variable (machine : Machine) (h : arguments.PlainNames)
    {before after : Environment} {name text : String} (hidle : Idle arguments name after) :
    construct machine (before ++ (name, text) :: after) arguments
      = construct machine (before ++ after) arguments := by
  rw [construct_of_plain machine _ h, construct_of_plain machine _ h]
  apply Origin.settings_congr
  · intro field
    exact resolves_iff.1 (Resolves.without_variable hidle (resolves_iff.2 rfl))
  · rfl

/-- Settings are made exactly if each is read as what is given for it, or has its default, and no
argument is unknown. -/
theorem construct_eq_ok_iff (machine : Machine) (environment : Environment)
    (h : arguments.PlainNames) (settings : Settings) :
    construct machine environment arguments = .ok settings ↔
      (∀ field, ∃ given, Resolves environment arguments field given ∧
        match given with
        | some value => field.kind.Reads value (settings.get field)
        | none => settings.get field = field.standard) ∧
      ∀ entry ∈ arguments, ∃ field : SettingField, lower entry.1 = field.name := by
  rw [construct_of_plain machine environment h, Origin.settings_eq_ok_iff,
    h.unknownArguments_eq_nil_iff]
  apply and_congr_left
  intro _
  apply forall_congr'
  intro field
  rw [Origin.resolve_eq_ok_iff]
  constructor
  · intro hresolves
    exact ⟨_, resolves_iff.2 rfl, hresolves⟩
  · rintro ⟨given, hgiven, hresolves⟩
    rw [resolves_iff.1 hgiven]
    exact hresolves

/-- One argument under the name of a setting makes the settings that only it changes. -/
theorem construct_named (machine : Machine) {field : SettingField} {value accepted : Value}
    (h : field.kind.Reads value accepted) :
    construct machine [] [(field.name, value)] = .ok (standard.set field accepted) := by
  have hlower : lower field.name = field.name := by cases field <;> decide +kernel
  have hplain : Assoc.PlainNames [(field.name, value)] := by
    intro entry hentry
    rw [List.mem_singleton.1 hentry]
    change field.name.toList.head? ≠ some '_'
    cases field <;> decide
  refine (construct_eq_ok_iff machine [] hplain _).2 ⟨?_, ?_⟩
  · intro other
    by_cases hother : other = field
    · subst hother
      refine ⟨some value, .byArgument [] [] rfl hlower (by simp), ?_⟩
      change other.kind.Reads value (if other = other then accepted else _)
      rw [if_pos rfl]
      exact h
    · refine ⟨none, .byDefault ?_ (by simp), if_neg hother⟩
      intro entry hentry
      rw [List.mem_singleton.1 hentry, hlower]
      exact fun hname => hother (SettingField.name_injective hname).symm
  · intro entry hentry
    rw [List.mem_singleton.1 hentry]
    exact ⟨field, hlower⟩

/-- What is made if anything can be made: each setting as it is read, or with its default. -/
theorem exists_construct_eq_ok_iff (machine : Machine) (environment : Environment)
    (h : arguments.PlainNames) :
    (∃ settings, construct machine environment arguments = .ok settings) ↔
      (∀ entry ∈ arguments, ∃ field : SettingField, lower entry.1 = field.name) ∧
      ∀ field value, Resolves environment arguments field (some value) →
        ∃ accepted, field.kind.Reads value accepted := by
  constructor
  · rintro ⟨settings, hmade⟩
    obtain ⟨hfields, hknown⟩ := (construct_eq_ok_iff machine environment h settings).1 hmade
    refine ⟨hknown, ?_⟩
    intro field value hvalue
    obtain ⟨given, hgiven, hread⟩ := hfields field
    have hsame : given = some value := (resolves_iff.1 hgiven).symm.trans (resolves_iff.1 hvalue)
    subst hsame
    exact ⟨_, hread⟩
  · rintro ⟨hknown, hreads⟩
    -- One value is chosen for each setting: what is given for it is read as some value.
    have hfields : ∀ field, ∃ accepted given, Resolves environment arguments field given ∧
        match given with
        | some value => field.kind.Reads value accepted
        | none => accepted = field.standard := by
      intro field
      have hgiven : Resolves environment arguments field _ := resolves_iff.2 rfl
      cases hvalue : (⟨environment, {}, arguments, []⟩ : Origin).given? field with
      | none =>
        rw [hvalue] at hgiven
        exact ⟨field.standard, none, hgiven, rfl⟩
      | some value =>
        rw [hvalue] at hgiven
        obtain ⟨accepted, hread⟩ := hreads field value hgiven
        exact ⟨accepted, some value, hgiven, hread⟩
    choose get hget using hfields
    exact ⟨⟨get⟩, (construct_eq_ok_iff machine environment h ⟨get⟩).2 ⟨hget, hknown⟩⟩

end Settings

/-! ## Precedence -/

/-- **How settings are resolved.** For each setting there is one thing that is given: the first
argument for it, or else the last variable, or nothing. Settings are made exactly if all arguments
are for settings and whatever is given can be read in its place; a setting is then what is read, or
its default. If not, they are refused as settings. A variable that is named after no setting, or has
an argument or a later variable before it, changes none of this. -/
theorem settings_precedence (machine : Machine) (environment : Environment)
    {arguments : Assoc Value} (h : arguments.PlainNames) :
    (∀ field, ∃! given, Settings.Resolves environment arguments field given) ∧
    ((∃ settings, Settings.construct machine environment arguments = .ok settings) ↔
      (∀ entry ∈ arguments, ∃ field : SettingField, lower entry.1 = field.name) ∧
      ∀ field value, Settings.Resolves environment arguments field (some value) →
        ∃ accepted, field.kind.Reads value accepted) ∧
    (∀ settings, Settings.construct machine environment arguments = .ok settings →
      ∀ field : SettingField,
        (∀ value, Settings.Resolves environment arguments field (some value) →
          field.kind.Reads value (settings.get field)) ∧
        (Settings.Resolves environment arguments field none →
          settings.get field = field.standard)) ∧
    (∀ failure, Settings.construct machine environment arguments = .error failure →
      ∃ errors, failure = .settings errors) ∧
    (∀ before name text after, environment = before ++ (name, text) :: after →
      Settings.Idle arguments name after →
      Settings.construct machine (before ++ after) arguments
        = Settings.construct machine environment arguments) := by
  refine ⟨?_, Settings.exists_construct_eq_ok_iff machine environment h, ?_, ?_, ?_⟩
  · intro field
    refine ⟨_, Settings.resolves_iff.2 rfl, ?_⟩
    intro given hgiven
    exact (Settings.resolves_iff.1 hgiven).symm
  · intro settings hmade field
    obtain ⟨given, hgiven, hread⟩ :=
      ((Settings.construct_eq_ok_iff machine environment h settings).1 hmade).1 field
    have hsame {other : Option Value}
        (hother : Settings.Resolves environment arguments field other) : given = other :=
      (Settings.resolves_iff.1 hgiven).symm.trans (Settings.resolves_iff.1 hother)
    constructor
    · intro value hvalue
      rw [hsame hvalue] at hread
      exact hread
    · intro hnone
      rw [hsame hnone] at hread
      exact hread
  · intro failure hfails
    rw [Settings.construct_of_plain machine environment h, Settings.Origin.settings] at hfails
    split at hfails
    · cases hfails
    · cases hfails
      exact ⟨_, rfl⟩
  · rintro before name text after rfl hidle
    exact (Settings.construct_without_variable machine h hidle).symm

/-- A flag that no word gives is hidden by a later variable in another case, an empty variable is a
value, and of two arguments for one setting the second is not even read. -/
theorem settings_precedence_hidden :
    let environment : Environment :=
      [("LDAP_AUTHZ_search_subtree", "perhaps"), ("Ldap_Authz_Search_Subtree", "yes"),
        ("LDAP_AUTHZ_ROLE_PREFIX", ""), ("PREFIX", "X_")]
    let arguments : Assoc Value := [("ENV", .text "prod"), ("env", .int 3)]
    ∃ settings, Settings.construct {} environment arguments = .ok settings ∧
      settings.get .searchSubtree = .bool true ∧ settings.get .rolePrefix = .text "" ∧
      settings.get .env = .text "prod" ∧ settings.get .defaultRole = .null ∧
      Settings.construct {} environment.tail arguments = .ok settings := by
  intro environment arguments
  have hplain : arguments.PlainNames := by
    unfold Assoc.PlainNames
    decide
  have hmade : (Settings.construct {} environment arguments).isOk = true := by decide +kernel
  obtain ⟨-, -, hresolved, -, hidle⟩ := settings_precedence {} environment hplain
  cases hsettings : Settings.construct {} environment arguments with
  | error failure =>
    rw [hsettings] at hmade
    cases hmade
  | ok settings =>
    have hread (field : SettingField) {value accepted : Value}
        (hvalue : field.kind.Reads value accepted)
        (hgiven : Settings.Resolves environment arguments field (some value)) :
        settings.get field = accepted :=
      ((hresolved settings hsettings field).1 value hgiven).unique hvalue
    have hyes : SettingKind.flag.Reads (.text "yes") (.bool true) := .spelled rfl (by decide)
    have hprod : SettingKind.environment.Reads (.text "prod") (.text "prod") :=
      .listed (by decide)
    refine ⟨settings, rfl, hread .searchSubtree hyes ?_, hread .rolePrefix (.plain "") ?_,
      hread .env hprod ?_, (hresolved settings hsettings .defaultRole).2 ?_, ?_⟩
    · exact .byVariable (environment.take 1) (environment.drop 2) (by decide +kernel) rfl
        (by decide +kernel) (by decide +kernel)
    · exact .byVariable (environment.take 2) (environment.drop 3) (by decide +kernel) rfl
        (by decide +kernel) (by decide +kernel)
    · exact .byArgument [] arguments.tail rfl (by decide +kernel) (by decide +kernel)
    · exact .byDefault (by decide +kernel) (by decide +kernel)
    · rw [← hsettings]
      apply hidle [] "LDAP_AUTHZ_search_subtree" "perhaps" environment.tail rfl
      intro field hfield
      refine Or.inr ⟨("Ldap_Authz_Search_Subtree", "yes"), List.mem_cons_self, ?_⟩
      rw [← hfield]
      decide +kernel

/-- An argument is taken although no setting has its name but for the case, and before the one that
has the setting's own name. -/
theorem argument_taken_in_another_case :
    let arguments : Assoc Value := [("ENV", .text "prod"), ("env", .text "test")]
    (∀ field : SettingField, field.name ≠ "ENV") ∧
      arguments.get? SettingField.env.name = some (.text "test") ∧
      ∃ settings, Settings.construct {} [] arguments = .ok settings ∧
        settings.get .env = .text "prod" := by
  intro arguments
  have hplain : arguments.PlainNames := by
    unfold Assoc.PlainNames
    decide
  refine ⟨?_, rfl, ?_⟩
  · intro field
    cases field <;> decide
  · have hmade : (Settings.construct {} [] arguments).isOk = true := by decide +kernel
    cases hsettings : Settings.construct {} [] arguments with
    | error failure =>
      rw [hsettings] at hmade
      cases hmade
    | ok settings =>
      refine ⟨settings, rfl, ?_⟩
      obtain ⟨given, hgiven, hread⟩ :=
        ((Settings.construct_eq_ok_iff {} [] hplain settings).1 hsettings).1 .env
      have hfirst : Settings.Resolves [] arguments .env (some (.text "prod")) :=
        .byArgument [] arguments.tail rfl (by decide +kernel) (by decide +kernel)
      have hsame : given = some (.text "prod") :=
        (Settings.resolves_iff.1 hgiven).symm.trans (Settings.resolves_iff.1 hfirst)
      subst hsame
      exact hread.unique (.listed (by decide))

end GrantedRoles
