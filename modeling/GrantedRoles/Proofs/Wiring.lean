import GrantedRoles.Proofs.GroupSearch.Modifiers
import GrantedRoles.Proofs.Impartial
import GrantedRoles.Proofs.Settings.Precedence

/-!
# One resolver, wired or made directly

Settings that were made describe a group search: what they accept is what its parts admit, each at
its own place (`Settings.Hold.exists_groupSearch`). To wire a resolver from them is to configure
logging and to make the resolver directly (`Populator.createOver_run`), so both ways come to one
resolver. It also resolves alike in a process whose logging was configured otherwise or not at all,
if logging refuses no line and its gateway is impartial.
-/

set_option autoImplicit false

namespace GrantedRoles

open Log Text

/-! ## The group search of settings -/

/-- The setting that a part of a group search takes its value from. The scope takes it from a flag,
which is not its value. -/
def GroupSearchField.setting? : GroupSearchField → Option SettingField
  | base => some .groupSearchBase
  | filter => some .groupSearchFilter
  | roleAttribute => some .groupRoleAttribute
  | scope => none
  | rolePrefix => some .rolePrefix
  | upperCase => some .convertToUpperCase
  | defaultRole => some .defaultRole

namespace Settings

/-- The parts of the group search that settings describe, with this scope. -/
def part (settings : Settings) (scope : Scope) : GroupSearchParts := fun field =>
  field.setting?.elim (.scope scope) settings.get

/-- The keyword arguments for a group search with these parts. -/
def keywords (settings : Settings) (scope : Scope) : Assoc Value :=
  GroupSearchField.all.map fun field => (field.keyword, settings.part scope field)

theorem get_groupDraft (settings : Settings) (scope : Scope) :
    (settings.groupDraft scope).get = settings.part scope := by
  funext field
  cases field <;> rfl

/-- The arguments set every part. -/
theorem ofArguments_keywords (settings : Settings) (scope : Scope) :
    GroupSearch.ofArguments (settings.keywords scope) = (settings.groupDraft scope).validate := rfl

namespace Hold

variable {settings : Settings}

theorem exists_flag (h : settings.Hold) (field : SettingField) (hkind : field.kind = .flag) :
    ∃ b, settings.get field = .bool b := by
  have hfield := h field
  rw [hkind] at hfield
  exact hfield

theorem exists_text (h : settings.Hold) (field : SettingField) (hkind : field.kind = .text) :
    ∃ s, settings.get field = .text s := by
  have hfield := h field
  rw [hkind] at hfield
  exact hfield

/-- Settings of their kinds have what every part admits. -/
theorem lawful (h : settings.Hold) (scope : Scope) : Lawful (settings.part scope) := by
  have htext (field : SettingField) (hkind : field.kind = .text) : settings.get field ≠ .null := by
    obtain ⟨s, hs⟩ := h.exists_text field hkind
    rw [hs]
    exact Value.noConfusion
  intro field
  cases field with
  | base => trivial
  | filter => exact htext .groupSearchFilter rfl
  | roleAttribute => exact htext .groupRoleAttribute rfl
  | scope => exact ⟨scope, rfl⟩
  | rolePrefix => exact htext .rolePrefix rfl
  | upperCase => exact h.exists_flag .convertToUpperCase rfl
  | defaultRole => trivial

/-- Settings of their kinds describe a group search, the one that keyword arguments give. -/
theorem exists_groupSearch (h : settings.Hold) :
    ∃ config, settings.groupSearch = .ok config ∧ config.get = settings.part config.scope ∧
      GroupSearch.ofArguments (settings.keywords config.scope) = .ok config ∧
      (config.scope = .subtree ↔ settings.get .searchSubtree = .bool true) := by
  obtain ⟨whole, hflag⟩ := h.exists_flag .searchSubtree rfl
  have hlawful := h.lawful (.ofSubtree whole)
  rw [← get_groupDraft] at hlawful
  obtain ⟨config, hvalid⟩ := GroupSearchDraft.exists_validate_of_lawful hlawful
  have hparts := (GroupSearchDraft.validate_decided _).get_eq hvalid
  rw [get_groupDraft] at hparts
  have hscope : config.scope = .ofSubtree whole := Value.scope.inj (congrFun hparts .scope)
  refine ⟨config, ?_, ?_, ?_, ?_⟩
  · rw [groupSearch_eq, hflag]
    exact hvalid
  · rw [hscope]
    exact hparts
  · rw [hscope, ofArguments_keywords]
    exact hvalid
  · rw [hscope, hflag, Scope.ofSubtree_eq_subtree_iff, Value.bool.injEq]

end Hold

/-! ## Levels -/

/-- The level of the settings has a name, in upper case. -/
def NamesLevel (settings : Settings) : Prop :=
  ∃ level severity, settings.get .logLevel = .text level ∧
    namedThresholds.lookup (upper level) = some severity

theorem NamesLevel.configure {settings : Settings} (h : settings.NamesLevel) (logging : Logging)
    (service : Value) : (logging.configure service (settings.get .logLevel)).1 = .ok () := by
  obtain ⟨level, severity, hlevel, hnamed⟩ := h
  have hthreshold : threshold level = .ok severity := by
    unfold threshold
    simp only [hnamed]
  rw [hlevel]
  unfold Logging.configure
  cases logging.threshold with
  | some _ => rfl
  | none => simp only [Value.asText?, hthreshold]

end Settings

/-! ## Creating over any gateway -/

/-- The ambient once logging is configured as settings say. -/
def Ambient.configuredBy (ambient : Ambient) (settings : Settings) : Ambient :=
  { ambient with
    logging := (ambient.logging.configure (settings.get .serviceName) (settings.get .logLevel)).2 }

namespace Populator

/-- Wires a resolver from settings, over a gateway of the caller's. -/
def createOver (settings : Settings) (gateway : Gateway) (hooks : Hooks) : Action Resolver := do
  configureLogging settings
  let config ← Action.ofExcept settings.groupSearch
  Resolver.create (some gateway) config hooks

/-- Populators over a gateway that is at hand are wired like that. -/
theorem create_resolver_eq (settings : Settings) (choice : GatewayChoice) (connection : Connection)
    (hooks : Hooks) :
    (do
      let populator ← create settings (some choice) hooks
      pure (populator.resolver connection) : Action Resolver)
      = createOver settings (choice.toGateway connection) hooks := by
  have hroot : (choice.toGateway connection).rootDn = (choice.toGateway {}).rootDn := by
    rw [rootDn_toGateway, rootDn_toGateway]
  funext ambient
  simp only [create, createOver, bind, Action.bind, pure, Action.pure]
  rcases configureLogging settings ambient with ⟨_ | _, between⟩
  · rfl
  · simp only [Action.ofExcept]
    cases settings.groupSearch with
    | error failure => rfl
    | ok config =>
      simp only [Resolver.create, hroot]
      -- What is said of an empty base says the root, and both have the same one.
      by_cases hempty : config.base.same (.text "") = true
      · simp only [hempty, if_true, bind, Action.bind]
        rcases Resolver.note .info _ _ between with ⟨_ | _, after⟩ <;> rfl
      · simp only [hempty]
        rfl

variable {settings : Settings} {config : GroupSearch}

/-- To wire a resolver is to configure logging and to make the resolver directly. -/
theorem createOver_run (hlevel : settings.NamesLevel) (hconfig : settings.groupSearch = .ok config)
    (gateway : Gateway) (hooks : Hooks) (ambient : Ambient) :
    (createOver settings gateway hooks).run ambient
      = (Resolver.create (some gateway) config hooks).run (ambient.configuredBy settings) := by
  have hconfigure : (configureLogging settings).run ambient
      = (.ok (), ambient.configuredBy settings) :=
    Prod.ext (hlevel.configure _ _) rfl
  refine (Action.run_bind_of_ok hconfigure _).trans ?_
  rw [hconfig]
  rfl

/-- What follows the wiring of a resolver follows the making of it. -/
theorem createOver_bind_run {α : Type} (hlevel : settings.NamesLevel)
    (hconfig : settings.groupSearch = .ok config) (gateway : Gateway) (hooks : Hooks)
    (next : Resolver → Action α) (ambient : Ambient) :
    (createOver settings gateway hooks >>= next).run ambient
      = (Resolver.create (some gateway) config hooks >>= next).run
        (ambient.configuredBy settings) := by
  have hrun := createOver_run hlevel hconfig gateway hooks ambient
  rcases hdirect : (Resolver.create (some gateway) config hooks).run
      (ambient.configuredBy settings) with ⟨failure | resolver, after⟩
  · rw [Action.run_bind_of_error (hrun.trans hdirect), Action.run_bind_of_error hdirect]
  · rw [Action.run_bind_of_ok (hrun.trans hdirect), Action.run_bind_of_ok hdirect]

end Populator

/-- A resolver comes to what is made of its parts, once it is said that its base is empty. -/
theorem Resolver.create_outcome (gateway : Gateway) (config : GroupSearch) (hooks : Hooks)
    (ambient : Ambient) :
    ((create (some gateway) config hooks).run ambient).1
      = settle ambient.scene (Populator.emptyBaseNotes gateway.rootDn config)
          (.ok ⟨gateway, config, hooks.orDefault⟩) := by
  obtain ⟨after, hrun, -⟩ := (Populator.resolver_conduct ambient.scene gateway config hooks).course
    ambient ambient.shows_scene
  rw [hrun]

section Impartial

variable {gateway : Gateway} {config : GroupSearch}

/-- Making a resolver over an impartial gateway and resolving with it is impartial. -/
theorem Resolver.impartial_create_resolveAll (h : gateway.Impartial)
    (hroot : gateway.rootDn.isWritable = true) (hfilter : config.filter.isWritable = true)
    (hbase : config.base.isWritable = true) (hooks : Hooks) (users : List User) :
    (create (some gateway) config hooks >>= fun resolver =>
      resolver.resolveAll users).Impartial := by
  apply (impartial_create hroot config hooks).bind_returned
  intro ambient resolver hmade
  rw [create_outcome] at hmade
  cases (settle_eq_ok_iff.1 hmade).1
  exact impartial_resolveAll h hfilter hbase users

/-- Where loggers take calls, a resolver is made and there is an outcome for each user. -/
theorem Resolver.exists_create_resolveAll (hroot : gateway.rootDn.isWritable = true)
    (config : GroupSearch) (hooks : Hooks) (users : List User) {ambient : Ambient}
    (h : ambient.scene.Hears) :
    ∃ outcomes, ((create (some gateway) config hooks >>= fun resolver =>
        resolver.resolveAll users).run ambient).1 = .ok outcomes ∧
      outcomes.length = users.length := by
  have hmade := create_outcome gateway config hooks ambient
  rw [h.settle_of_plain (Populator.plain_of_mem_emptyBaseNotes hroot config)] at hmade
  rcases hrun : (create (some gateway) config hooks).run ambient with ⟨made, between⟩
  rw [hrun] at hmade
  obtain rfl : made = .ok _ := hmade
  rw [Action.run_bind_of_ok hrun]
  exact exists_resolveAll_eq_ok _ users between

end Impartial

/-! ## The two ways -/

/-- **Settings wire the resolver that is made directly.** Settings that were made describe a group
search, whose parts are theirs and whose scope is the subtree exactly if their flag says so; keyword
arguments give the same one. Say their level has a name. Then wiring a resolver from them over any
gateway and any hooks, and resolving any users with it, runs as making the resolver directly and
resolving the users does, in the same state of logging, to the same outcomes with the same calls and
lines. The resolver is not made only if its base is empty and this cannot be said. If the gateway is
impartial and its root can be written, both ways also come to the same outcomes and calls in
processes that differ in logging, if loggers take calls in both. A populator over either of the two
gateways is wired like that, and these are impartial. -/
theorem settings_wire_resolver {machine : Machine} {environment : Environment}
    {arguments : Assoc Value} {settings : Settings}
    (h : Settings.construct machine environment arguments = .ok settings) :
    ∃ config, settings.groupSearch = .ok config ∧
      config.get = settings.part config.scope ∧
      GroupSearch.ofArguments (settings.keywords config.scope) = .ok config ∧
      (config.scope = .subtree ↔ settings.get .searchSubtree = .bool true) ∧
      (settings.NamesLevel → ∀ (gateway : Gateway) (hooks : Hooks) (users : List User),
        let wired := Populator.createOver settings gateway hooks
        let direct := Resolver.create (some gateway) config hooks
        let resolved (made : Action Resolver) := made >>= fun resolver => resolver.resolveAll users
        (∀ ambient : Ambient,
          wired.run ambient = direct.run (ambient.configuredBy settings) ∧
          (resolved wired).run ambient = (resolved direct).run (ambient.configuredBy settings) ∧
          (wired.run ambient).1 = settle (ambient.configuredBy settings).scene
            (Populator.emptyBaseNotes gateway.rootDn config)
            (.ok ⟨gateway, config, hooks.orDefault⟩)) ∧
        (gateway.Impartial → gateway.rootDn.isWritable = true → ∀ ambient other : Ambient,
          (ambient.configuredBy settings).Beside other →
          ∃ outcomes, outcomes.length = users.length ∧
            ((resolved wired).run ambient).1 = .ok outcomes ∧
            ((resolved direct).run other).1 = .ok outcomes ∧
            ((resolved wired).run ambient).2.calls = ((resolved direct).run other).2.calls)) ∧
      ∀ (choice : GatewayChoice) (connection : Connection) (hooks : Hooks),
        (do
          let populator ← Populator.create settings (some choice) hooks
          pure (populator.resolver connection) : Action Resolver)
          = Populator.createOver settings (choice.toGateway connection) hooks ∧
        (choice.rootDn.isWritable = true → (choice.toGateway connection).Impartial) := by
  have hhold := Settings.hold_of_construct h
  obtain ⟨config, hconfig, hparts, hdirect, hscope⟩ := hhold.exists_groupSearch
  refine ⟨config, hconfig, hparts, hdirect, hscope, ?_, ?_⟩
  · intro hlevel gateway hooks users wired direct resolved
    have hrun (ambient : Ambient) := Populator.createOver_run hlevel hconfig gateway hooks ambient
    have hruns (ambient : Ambient) := Populator.createOver_bind_run hlevel hconfig gateway hooks
      (fun resolver => resolver.resolveAll users) ambient
    constructor
    · intro ambient
      refine ⟨hrun ambient, hruns ambient, ?_⟩
      rw [hrun ambient]
      exact Resolver.create_outcome gateway config hooks _
    · intro himpartial hroot ambient other hbeside
      obtain ⟨hbaseof, hfilterof⟩ := Settings.parts_of_groupSearch hconfig
      have hfilter : config.filter.isWritable = true :=
        hfilterof ▸ hhold.isWritable .groupSearchFilter
      have hbase : config.base.isWritable = true := hbaseof ▸ hhold.isWritable .groupSearchBase
      obtain ⟨outcomes, houtcomes, hlength⟩ :=
        Resolver.exists_create_resolveAll hroot config hooks users hbeside.here
      have hsame := Resolver.impartial_create_resolveAll himpartial hroot hfilter hbase hooks users
        (ambient.configuredBy settings) other hbeside
      refine ⟨outcomes, hlength, ?_, ?_, ?_⟩
      · rw [hruns ambient]
        exact houtcomes
      · rw [← hsame.outcome]
        exact houtcomes
      · rw [hruns ambient]
        exact hsame.calls
  · intro choice connection hooks
    exact ⟨Populator.create_resolver_eq settings choice connection hooks,
      fun hroot => choice.impartial_toGateway hroot connection⟩

/-- Settings with the empty base are wired over a gateway in memory like a resolver that is made
directly, and a member gets its role both where logging was never configured and where it was. -/
theorem settings_wire_resolver_root :
    let settings := Settings.standard.set .groupSearchBase (.text "")
    let gateway := GatewayChoice.toGateway (.memory { values := ["developers"] }) {}
    let resolved (made : Action Resolver) := made >>= fun resolver =>
      resolver.resolveAll [⟨"uid=ben,dc=x", "ben", []⟩]
    ∃ config outcomes, settings.groupSearch = .ok config ∧ config.searchEnabled = true ∧
      ((resolved (Populator.createOver settings gateway {})).run {}).1 = .ok outcomes ∧
      ((resolved (Resolver.create (some gateway) config {})).run
        { logging := .configuredAt "DEBUG" }).1 = .ok outcomes ∧
      outcomes.map (fun outcome => outcome.toOption.map (·.texts.toList))
        = [some ["ROLE_DEVELOPERS"]] := by
  intro settings gateway resolved
  have hbase : SettingKind.optionalText.Reads (.text "") (.text "") := .present (.plain "")
  have hmade : Settings.construct {} [] [(SettingField.groupSearchBase.name, .text "")]
      = .ok settings := Settings.construct_named _ hbase
  have hlevel : settings.NamesLevel := ⟨"INFO", 20, rfl, by decide⟩
  -- Nothing disturbs logging where nothing was done yet, and configuring it does not either.
  have hservice : (Value.text "service").isWritable = true := rfl
  have hbeside : (Ambient.configuredBy {} settings).Beside { logging := .configuredAt "DEBUG" } :=
    ⟨rfl, rfl, (Scene.Undisturbed.fresh.configure rfl _).hears,
      (Scene.Undisturbed.fresh.configure hservice (.text "DEBUG")).hears⟩
  obtain ⟨config, hconfig, hparts, -, -, hwired, hchoice⟩ := settings_wire_resolver hmade
  obtain ⟨outcomes, -, hthere, hhere, -⟩ := (hwired hlevel gateway {} [_]).2
    ((hchoice _ _ {}).2 rfl) rfl {} { logging := .configuredAt "DEBUG" } hbeside
  have hroles : ((resolved (Populator.createOver settings gateway {})).run {}).1.toOption.map
      (List.map fun outcome => outcome.toOption.map (·.texts.toList))
        = some [some ["ROLE_DEVELOPERS"]] := by decide +kernel
  rw [hthere] at hroles
  refine ⟨config, outcomes, hconfig, ?_, hthere, hhere, Option.some.inj hroles⟩
  have hempty : config.base = .text "" := congrFun hparts .base
  rw [GroupSearch.searchEnabled, hempty]
  rfl

/-- Of such settings nothing is made where the caller has bound the field that stands for a record:
that the base is empty cannot be said. -/
theorem not_wired_on_record :
    let settings := Settings.standard.set .groupSearchBase (.text "")
    Settings.construct {} [] [(SettingField.groupSearchBase.name, .text "")] = .ok settings ∧
      settings.NamesLevel ∧
      ((Populator.create settings (some (.memory {})) {}).run
        { context := [(recordField, .int 1)] }).1 = .error .noSuchOperation := by
  intro settings
  have hbase : SettingKind.optionalText.Reads (.text "") (.text "") := .present (.plain "")
  exact ⟨Settings.construct_named _ hbase, ⟨"INFO", 20, rfl, by decide⟩, rfl⟩

end GrantedRoles
