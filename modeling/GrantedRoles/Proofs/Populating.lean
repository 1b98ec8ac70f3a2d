import GrantedRoles.Populator
import GrantedRoles.Proofs.Directory.Connection
import GrantedRoles.Proofs.GroupSearch.Parts
import GrantedRoles.Proofs.Resolution
import GrantedRoles.Proofs.Settings.Acceptance
import GrantedRoles.Proofs.Undisturbed

/-!
# What populators ask for

Creating a populator and resolving with it, for any settings. Creating makes a directory server
ready at most (`Populator.create_run`); it is a resolution that opens a connection, and, where
logging hears it, only if the populator's groups are searched (`Populator.resolve_makes_directory`).
-/

set_option autoImplicit false

namespace GrantedRoles

open Log

/-! ## Outcomes that succeed -/

section Outcomes

variable {α β : Type} {outcome : Except Failure α} {b : β}

theorem exists_of_bind_eq_ok {f : α → Except Failure β} (h : outcome.bind f = .ok b) :
    ∃ a, outcome = .ok a ∧ f a = .ok b := by
  cases outcome with
  | error failure => cases h
  | ok a => exact ⟨a, rfl, h⟩

theorem exists_of_map_eq_ok {f : α → β} (h : outcome.map f = .ok b) :
    ∃ a, outcome = .ok a ∧ f a = b := by
  cases outcome with
  | error failure => cases h
  | ok a =>
    cases h
    exact ⟨a, rfl, rfl⟩

end Outcomes

/-! ## The group search of settings -/

/-- The draft of the group search that settings describe. -/
def Settings.groupDraft (settings : Settings) (scope : Scope) : GroupSearchDraft :=
  { base := settings.get .groupSearchBase, filter := settings.get .groupSearchFilter,
    roleAttribute := settings.get .groupRoleAttribute, scope := .scope scope,
    rolePrefix := settings.get .rolePrefix, upperCase := settings.get .convertToUpperCase,
    defaultRole := settings.get .defaultRole }

/-- The keywords of a group search take the settings to their places in the draft. -/
theorem Settings.groupSearch_eq (settings : Settings) :
    settings.groupSearch = (Scope.ofFlag (settings.get .searchSubtree)).bind fun scope =>
      (settings.groupDraft scope).validate := by
  unfold groupSearch GroupSearch.fromSubtreeFlag
  split
  -- None of the keywords is the implicit one.
  · next h => exact Bool.noConfusion h
  · split
    · next failure hfailure =>
      have hflag : Scope.ofFlag (settings.get .searchSubtree) = .error failure := hfailure
      rw [hflag]
      rfl
    · next scope hscope =>
      have hflag : Scope.ofFlag (settings.get .searchSubtree) = .ok scope := hscope
      rw [hflag]
      rfl

/-- Groups are searched under the base and with the filter of the settings. -/
theorem Settings.parts_of_groupSearch {settings : Settings} {config : GroupSearch}
    (h : settings.groupSearch = .ok config) :
    config.base = settings.get .groupSearchBase ∧
      config.filter = settings.get .groupSearchFilter := by
  rw [groupSearch_eq] at h
  obtain ⟨scope, -, hvalid⟩ := exists_of_bind_eq_ok h
  have hparts := (GroupSearchDraft.validate_decided _).get_eq hvalid
  exact ⟨congrFun hparts .base, congrFun hparts .filter⟩

/-- What settings of their kinds hold can be written. -/
theorem Settings.Hold.isWritable {settings : Settings} (h : settings.Hold) (field : SettingField) :
    (settings.get field).isWritable = true := by
  have hfield := h field
  cases hkind : field.kind with
  | environment =>
    rw [hkind] at hfield
    obtain ⟨s, -, hs⟩ := hfield
    rw [hs]
    rfl
  | text =>
    rw [hkind] at hfield
    obtain ⟨s, hs⟩ := hfield
    rw [hs]
    rfl
  | optionalText =>
    rw [hkind] at hfield
    rcases hfield with hnull | ⟨s, hs⟩
    · rw [hnull]
      rfl
    · rw [hs]
      rfl
  | flag =>
    rw [hkind] at hfield
    obtain ⟨b, hb⟩ := hfield
    rw [hb]
    rfl

/-! ## Creating -/

/-- A gateway to a directory is made of its root and its opening call. -/
theorem DirectoryGateway.eq_of_create {opening : Call} {rootDn : Value}
    {gateway : DirectoryGateway} (h : create (some opening) rootDn = .ok gateway) :
    gateway = ⟨rootDn, opening⟩ := by
  unfold create at h
  cases hroot : require rootDn .rootDn with
  | error failure =>
    simp only [hroot] at h
    cases h
  | ok _ =>
    simp only [hroot] at h
    cases h
    rfl

namespace Populator

/-- The gateway of a populator: the supplied one, or one to the directory of the settings, which
must be there. -/
def chosen (settings : Settings) : Option GatewayChoice → Except Failure GatewayChoice
  | some gateway => .ok gateway
  | none =>
      if (settings.get .ldapUrl).isTruthy then
        (DirectoryGateway.create (some (opening settings)) (settings.get .rootDn)).map .directory
      else .error (.configuration .noDirectoryUrl)

/-- What choosing the gateway calls: the server of the settings is made ready unless a gateway is
supplied. -/
def choosing (settings : Settings) : Option GatewayChoice → List Call
  | some _ => []
  | none =>
      if (settings.get .ldapUrl).isTruthy then [.server (settings.get .ldapUrl)] else []

/-- Without a supplied gateway, the gateway is the one to the directory of the settings. -/
theorem gateway_of_chosen {settings : Settings} {gateway : GatewayChoice}
    (h : chosen settings none = .ok gateway) :
    gateway = .directory ⟨settings.get .rootDn, opening settings⟩ := by
  simp only [chosen] at h
  split at h
  · obtain ⟨built, hbuilt, rfl⟩ := exists_of_map_eq_ok h
    rw [DirectoryGateway.eq_of_create hbuilt]
  · cases h

/-- The opening of connections is made ready if there is a directory to connect to. -/
theorem connectionFactory_conduct (scene : Scene) (settings : Settings) :
    Conduct scene (connectionFactory settings)
      (if (settings.get .ldapUrl).isTruthy then .ok (opening settings)
        else .error (.configuration .noDirectoryUrl))
      (choosing settings none) [] := by
  unfold connectionFactory choosing
  by_cases hurl : (settings.get .ldapUrl).isTruthy = true
  · simp only [hurl, if_true]
    exact (Conduct.call _).bind (Conduct.pure _)
  · simp only [hurl]
    exact Conduct.fail _

theorem buildGateway_conduct (scene : Scene) (settings : Settings) :
    Conduct scene (buildGateway settings) (chosen settings none) (choosing settings none) [] := by
  have hfactory := connectionFactory_conduct scene settings
  unfold buildGateway
  simp only [chosen]
  by_cases hurl : (settings.get .ldapUrl).isTruthy = true
  · rw [if_pos hurl] at hfactory ⊢
    exact hfactory.bind_silent ((Conduct.ofExcept
      (DirectoryGateway.create (some (opening settings)) (settings.get .rootDn))).map
        GatewayChoice.directory)
  · rw [if_neg hurl] at hfactory ⊢
    exact hfactory.bind_error _

theorem chosen_conduct (scene : Scene) (settings : Settings) (supplied : Option GatewayChoice) :
    Conduct scene (supplied.elim (buildGateway settings) pure) (chosen settings supplied)
      (choosing settings supplied) [] := by
  cases supplied with
  | none => exact buildGateway_conduct scene settings
  | some gateway => exact Conduct.pure gateway

/-- What making a resolver says: that its base is empty, if it is. -/
def emptyBaseNotes (rootDn : Value) (config : GroupSearch) : List Note :=
  if config.base.same (.text "") then
    [Resolver.noted .info "group_search_base_empty"
      [("detail", .text "Searches will be performed from the root"), ("root_dn", rootDn)]]
  else []

/-- What is said of an empty base is plain if the root can be written. -/
theorem plain_of_mem_emptyBaseNotes {rootDn : Value} (h : rootDn.isWritable = true)
    (config : GroupSearch) : ∀ note ∈ emptyBaseNotes rootDn config, note.Plain := by
  unfold emptyBaseNotes
  split
  · intro note hnote
    obtain rfl := List.mem_singleton.1 hnote
    exact Resolver.plain_noted _ _ (by simp [interpretedFields, recordField, exceptionField, h])
  · simp

/-- A resolver is made of its parts, and asks no hooks of an object that does not count. That its
base is empty is worth a line, and nothing is made if that is refused. -/
theorem resolver_conduct (scene : Scene) (gateway : Gateway) (config : GroupSearch)
    (hooks : Hooks) :
    Conduct scene (Resolver.create (some gateway) config hooks)
      (settle scene (emptyBaseNotes gateway.rootDn config) (.ok ⟨gateway, config, hooks.orDefault⟩))
      [] (scene.remarks (emptyBaseNotes gateway.rootDn config)) := by
  unfold Resolver.create emptyBaseNotes
  by_cases hempty : config.base.same (.text "") = true
  · simp only [hempty, if_true]
    exact Conduct.log_bind (Conduct.pure _)
  · simp only [hempty]
    exact Conduct.pure _

/-- What creating a populator does once logging is configured. -/
def wire (settings : Settings) (supplied : Option GatewayChoice) (hooks : Hooks) :
    Action Populator := do
  let gateway ← supplied.elim (buildGateway settings) pure
  let config ← Action.ofExcept settings.groupSearch
  let made ← Resolver.create (some (gateway.toGateway {})) config hooks
  pure { gateway, config, hooks := made.hooks }

theorem create_eq (settings : Settings) (supplied : Option GatewayChoice) (hooks : Hooks) :
    create settings supplied hooks
      = configureLogging settings >>= fun _ => wire settings supplied hooks := by
  cases supplied <;> rfl

/-- Over a supplied gateway it does not matter which directory the settings name, if any. -/
theorem create_set_ldapUrl (settings : Settings) (gateway : GatewayChoice) (hooks : Hooks)
    (url : Value) :
    create (settings.set .ldapUrl url) (some gateway) hooks
      = create settings (some gateway) hooks := by
  have hsearch : (settings.set .ldapUrl url).groupSearch = settings.groupSearch := by
    rw [Settings.groupSearch_eq, Settings.groupSearch_eq]
    rfl
  have hconfigure : configureLogging (settings.set .ldapUrl url) = configureLogging settings := rfl
  rw [create_eq, create_eq, hconfigure]
  unfold wire
  rw [hsearch]
  rfl

theorem rootDn_toGateway (choice : GatewayChoice) (connection : Connection) :
    (choice.toGateway connection).rootDn = choice.rootDn := by
  cases choice <;> rfl

/-- What wiring comes to: the populator over the chosen gateway, unless its base is empty and that
cannot be said. -/
def wiring (scene : Scene) (settings : Settings) (supplied : Option GatewayChoice) (hooks : Hooks) :
    Except Failure Populator :=
  (chosen settings supplied).bind fun gateway => settings.groupSearch.bind fun config =>
    settle scene (emptyBaseNotes gateway.rootDn config) (.ok ⟨gateway, config, hooks.orDefault⟩)

theorem parts_of_wiring {scene : Scene} {settings : Settings} {supplied : Option GatewayChoice}
    {hooks : Hooks} {populator : Populator}
    (h : wiring scene settings supplied hooks = .ok populator) :
    chosen settings supplied = .ok populator.gateway ∧
      settings.groupSearch = .ok populator.config := by
  obtain ⟨gateway, hgateway, h⟩ := exists_of_bind_eq_ok h
  obtain ⟨config, hconfig, h⟩ := exists_of_bind_eq_ok h
  cases (settle_eq_ok_iff.1 h).1
  exact ⟨hgateway, hconfig⟩

/-- What wiring says. -/
def wiringNotes (settings : Settings) (supplied : Option GatewayChoice) : List Note :=
  match chosen settings supplied, settings.groupSearch with
  | .ok gateway, .ok config => emptyBaseNotes gateway.rootDn config
  | _, _ => []

theorem wire_conduct (scene : Scene) (settings : Settings) (supplied : Option GatewayChoice)
    (hooks : Hooks) :
    Conduct scene (wire settings supplied hooks) (wiring scene settings supplied hooks)
      (choosing settings supplied) (scene.remarks (wiringNotes settings supplied)) := by
  have hchosen := chosen_conduct scene settings supplied
  unfold wire wiring wiringNotes
  cases hgateway : chosen settings supplied with
  | error failure =>
    rw [hgateway] at hchosen
    exact hchosen.bind_error _
  | ok gateway =>
    rw [hgateway] at hchosen
    cases hconfig : settings.groupSearch with
    | error failure =>
      exact hchosen.bind_silent ((Conduct.ofExcept (.error failure)).bind_error _)
    | ok config =>
      have hresolver := resolver_conduct scene (gateway.toGateway {}) config hooks
      rw [rootDn_toGateway] at hresolver
      -- Of the resolver only its hooks are kept.
      have hmade := hresolver.map fun made => Populator.mk gateway config made.hooks
      rw [settle_map] at hmade
      exact hchosen.bind_silent ((Conduct.ofExcept (.ok config)).bind hmade)

/-- A creation starts by configuring logging, and goes on if that succeeds. -/
theorem create_run_eq (settings : Settings) (supplied : Option GatewayChoice) (hooks : Hooks)
    (ambient : Ambient) :
    let configured :=
      ambient.logging.configure (settings.get .serviceName) (settings.get .logLevel)
    (create settings supplied hooks).run ambient = match configured.1 with
      | .ok _ => (wire settings supplied hooks).run { ambient with logging := configured.2 }
      | .error failure => (.error failure, { ambient with logging := configured.2 }) := by
  intro configured
  have hconfigure : (configureLogging settings).run ambient
      = (configured.1, { ambient with logging := configured.2 }) := rfl
  rw [create_eq]
  cases houtcome : configured.1 with
  | error failure =>
    rw [houtcome] at hconfigure
    exact Action.run_bind_of_error hconfigure _
  | ok done =>
    rw [houtcome] at hconfigure
    exact Action.run_bind_of_ok hconfigure _

/-- What creating a populator comes to: logging is configured first, and only if that succeeds a
gateway is chosen, with its calls, and the populator wired. -/
theorem create_run (settings : Settings) (supplied : Option GatewayChoice) (hooks : Hooks)
    (ambient : Ambient) :
    let configured :=
      ambient.logging.configure (settings.get .serviceName) (settings.get .logLevel)
    ∃ after, (create settings supplied hooks).run ambient
        = (configured.1.bind fun _ =>
            wiring ⟨ambient.context, configured.2⟩ settings supplied hooks, after) ∧
      after.Shows ⟨ambient.context, configured.2⟩ ∧
      after.calls = ambient.calls ++ configured.1.toOption.elim [] fun _ =>
        choosing settings supplied := by
  intro configured
  have hrun : (create settings supplied hooks).run ambient = match configured.1 with
      | .ok _ => (wire settings supplied hooks).run { ambient with logging := configured.2 }
      | .error failure => (.error failure, { ambient with logging := configured.2 }) :=
    create_run_eq settings supplied hooks ambient
  rw [hrun]
  cases configured.1 with
  | error failure => exact ⟨_, rfl, ⟨rfl, .refl _⟩, by simp [Except.toOption]⟩
  | ok _ =>
    obtain ⟨after, hrun, hshows, hcalls, -⟩ := (wire_conduct ⟨ambient.context, configured.2⟩
      settings supplied hooks).course { ambient with logging := configured.2 } ⟨rfl, .refl _⟩
    exact ⟨after, hrun, hshows, hcalls⟩

/-- However a creation ends, the bound context is what it was. -/
theorem context_create (settings : Settings) (supplied : Option GatewayChoice) (hooks : Hooks)
    (ambient : Ambient) :
    ((create settings supplied hooks).run ambient).2.context = ambient.context := by
  obtain ⟨after, hrun, hshows, -⟩ := create_run settings supplied hooks ambient
  rw [hrun]
  exact hshows.context

end Populator

/-! ## Resolving -/

/-- A call on a hook. -/
def Call.isHook : Call → Bool
  | .legacyHook _ _ => true
  | .additionalHook _ _ => true
  | _ => false

theorem Hooks.isHook_of_mem_legacy (hooks : Hooks) (user : User) :
    ∀ c ∈ (hooks.legacyConsultation user).calls, c.isHook = true := by
  unfold legacyConsultation
  cases hooks.legacy <;> simp [Call.isHook]

theorem Hooks.isHook_of_mem_additional (hooks : Hooks) (user : User) :
    ∀ c ∈ (hooks.additionalConsultation user).calls, c.isHook = true := by
  unfold additionalConsultation
  cases hooks.additional <;> simp [Call.isHook]

/-- The groups of a user are searched: there is a base, be it empty, and the filter renders with the
user's two names. -/
def SearchesGroups (base template : Value) (user : User) : Prop :=
  base.isPresent = true ∧ ∃ filter,
    SearchFilter.render template [.text user.dn, .text user.username] = .ok filter

namespace Resolver

variable {scene : Scene} {resolver : Resolver} {calls : List Call}

/-- The call that says which groups are searched. -/
def searching (config : GroupSearch) : Note :=
  noted .debug "searching_group_roles"
    [("filter", config.filter), ("search_base", config.base), ("scope", .scope config.scope)]

theorem plain_searching {config : GroupSearch} (hfilter : config.filter.isWritable = true)
    (hbase : config.base.isWritable = true) : (searching config).Plain :=
  plain_noted _ _
    (by simp [interpretedFields, recordField, exceptionField, hfilter, hbase])

/-- Only the gateway is asked for the groups of a user. It is not asked without a base, nor if it
cannot be said which groups are searched. -/
theorem groupRoles_makes (user : User)
    (hsearch : Makes scene (resolver.gateway.search (query resolver.config user)) calls) :
    ∃ asked, Makes scene (resolver.groupRoles user) asked ∧ (asked = [] ∨ asked = calls) ∧
      (scene.reply (searching resolver.config) = .ok () →
        asked = if resolver.config.searchEnabled then calls else []) := by
  cases henabled : resolver.config.searchEnabled with
  | false =>
    simp only [groupRoles, henabled, Bool.false_eq_true, if_false]
    exact ⟨[], Makes.pure _, Or.inl rfl, fun _ => rfl⟩
  | true =>
    have hnote : Conduct scene (note .debug "searching_group_roles" _)
        (scene.reply (searching resolver.config)) [] _ := note_conduct scene .debug _ _
    simp only [groupRoles, henabled, if_true]
    cases hreply : scene.reply (searching resolver.config) with
    | error refusal =>
      rw [hreply] at hnote
      refine ⟨[], Makes.of_course (hnote.bind_error _).exists_course, Or.inl rfl, ?_⟩
      intro hok
      cases hok
    | ok _ =>
      rw [hreply] at hnote
      refine ⟨calls, Makes.silent_bind hnote.exists_course ?_, Or.inr rfl, fun _ => rfl⟩
      -- What is found is logged and made into roles; neither asks anybody.
      apply hsearch.bind_silent
      intro found
      exact (Makes.log _).bind_silent fun _ => (Makes.ofExcept _).bind_silent fun _ => Makes.pure _

/-- After the gateway only hooks are called. -/
theorem resolve_makes (user : User)
    (hsearch : Makes (scene.withUser user.dn user.username)
      (resolver.gateway.search (query resolver.config user)) calls) :
    ∃ asked hooked, (∀ c ∈ hooked, c.isHook = true) ∧
      Makes scene (resolver.resolve user) (asked ++ hooked) ∧ (asked = [] ∨ asked = calls) ∧
      ((scene.withUser user.dn user.username).reply beginning = .ok () →
        (scene.withUser user.dn user.username).reply (searching resolver.config) = .ok () →
        asked = if resolver.config.searchEnabled then calls else []) := by
  cases hbegins : (scene.withUser user.dn user.username).reply beginning with
  | error refusal =>
    refine ⟨[], [], by simp, Makes.of_course (resolver.resolve_refused user hbegins), Or.inl rfl, ?_⟩
    intro hok
    cases hok
  | ok _ =>
    have hnote := note_conduct (scene.withUser user.dn user.username) .debug
      "resolving_authorities" []
    change Conduct _ _ (Scene.reply _ beginning) _ _ at hnote
    rw [hbegins] at hnote
    have hend : ∀ g l : TextSet, Makes (scene.withUser user.dn user.username) (do
        let additional ← resolver.additionalRoles user
        Action.ofExcept
          (RoleSet.withDefault ((g.union l).union additional) resolver.config.defaultRole))
        (resolver.hooks.additionalConsultation user).calls := by
      intro g l
      exact (Makes.of_course (additionalRoles_conduct user).exists_course).bind_silent fun _ =>
        Makes.ofExcept _
    -- Whatever the groups are, the hooks follow them: the legacy one, then the additional one.
    have hhooks : ∀ g : TextSet, ∃ hooked, (∀ c ∈ hooked, c.isHook = true) ∧
        Makes (scene.withUser user.dn user.username) (do
          let legacy ← resolver.legacyRoles user
          let additional ← resolver.additionalRoles user
          Action.ofExcept
            (RoleSet.withDefault ((g.union legacy).union additional) resolver.config.defaultRole))
          hooked := by
      intro g
      obtain ⟨more, hmore, hmakes⟩ :=
        (Makes.of_course (legacyRoles_conduct user).exists_course).bind_all
        fun l => ⟨_, resolver.hooks.isHook_of_mem_additional user, hend g l⟩
      exact ⟨_, List.forall_mem_append.2 ⟨resolver.hooks.isHook_of_mem_legacy user, hmore⟩, hmakes⟩
    obtain ⟨asked, hgroups, hasked, hheard⟩ := groupRoles_makes user hsearch
    obtain ⟨hooked, hhooked, hmakes⟩ := hgroups.bind_all hhooks
    exact ⟨asked, hooked, hhooked, Makes.withUser (Makes.silent_bind hnote.exists_course hmakes),
      hasked, fun _ => hheard⟩

end Resolver

namespace Populator

variable {scene : Scene} {populator : Populator}

/-- A resolution with a populator to a directory opens one connection at most; then hooks are
called. Where logging hears it, and what the populator is made of can be written, it opens one
exactly if the groups of the user are searched. -/
theorem resolve_makes_directory (scene : Scene) {gateway : DirectoryGateway}
    (hgateway : populator.gateway = .directory gateway) (connection : Connection) (user : User) :
    ∃ asked hooked, (∀ c ∈ hooked, c.isHook = true) ∧
      Makes scene ((populator.resolver connection).resolve user) (asked ++ hooked) ∧
      (asked = [] ∨ DirectoryGateway.Visit gateway.opening connection asked) ∧
      (scene.Hears → populator.config.filter.isWritable = true →
        populator.config.base.isWritable = true → gateway.rootDn.isWritable = true →
        (SearchesGroups populator.config.base populator.config.filter user →
          DirectoryGateway.Visit gateway.opening connection asked) ∧
        (¬ SearchesGroups populator.config.base populator.config.filter user → asked = [])) := by
  obtain ⟨searched, hsearch, hvisit, hnone⟩ := DirectoryGateway.search_makes
    (scene.withUser user.dn user.username) gateway connection (Resolver.query populator.config user)
  have hasked : (populator.resolver connection).gateway = gateway.withConnection connection := by
    rw [resolver, hgateway]
    rfl
  have hsearch' : Makes (scene.withUser user.dn user.username)
      ((populator.resolver connection).gateway.search
        (Resolver.query (populator.resolver connection).config user)) searched := by
    rw [hasked]
    exact hsearch
  have hvisited : searched = [] ∨ DirectoryGateway.Visit gateway.opening connection searched := by
    by_cases hprepares :
        ∃ prepared, gateway.prepare (Resolver.query populator.config user) = .ok prepared
    · exact Or.inr (hvisit hprepares)
    · exact Or.inl (hnone hprepares)
  obtain ⟨asked, hooked, hhooked, hmakes, hcalls, hheard⟩ := Resolver.resolve_makes user hsearch'
  refine ⟨asked, hooked, hhooked, hmakes, ?_, ?_⟩
  · rcases hcalls with rfl | rfl
    · exact Or.inl rfl
    · exact hvisited
  · intro hears hfilter hbase hroot
    have hwithin := hears.withUser user.dn user.username
    have hprepares : (∃ prepared, gateway.prepare (Resolver.query populator.config user)
        = .ok prepared) ↔ ∃ filter, SearchFilter.render populator.config.filter
          [.text user.dn, .text user.username] = .ok filter :=
      DirectoryGateway.exists_prepare_iff hroot hbase
    rw [hheard (hwithin.reply_of_plain (Note.plain_of_text _ _ _ _))
      (hwithin.reply_of_plain (Resolver.plain_searching hfilter hbase))]
    constructor
    · rintro ⟨hpresent, hrenders⟩
      have henabled : (populator.resolver connection).config.searchEnabled = true := hpresent
      rw [if_pos henabled]
      exact hvisit (hprepares.2 hrenders)
    · intro hidle
      split
      · next hpresent => exact hnone fun h => hidle ⟨hpresent, hprepares.1 h⟩
      · rfl

/-- A resolution with a populator in memory asks it at most once; then hooks are called. -/
theorem resolve_makes_memory (scene : Scene) {gateway : MemoryGateway}
    (hgateway : populator.gateway = .memory gateway) (connection : Connection) (user : User) :
    ∃ asked hooked, (∀ c ∈ hooked, c.isHook = true) ∧
      Makes scene ((populator.resolver connection).resolve user) (asked ++ hooked) ∧
      (asked = [] ∨ ∃ query, asked = [.gateway query]) := by
  have hasked : (populator.resolver connection).gateway = Gateway.answering gateway.rootDn
      fun _ => gateway.failure.elim (.ok (TextSet.ofList gateway.values)) .error := by
    rw [resolver, hgateway]
    exact gateway.toGateway_eq
  have hsearch : Makes (scene.withUser user.dn user.username)
      ((populator.resolver connection).gateway.search
        (Resolver.query (populator.resolver connection).config user))
      [.gateway (Resolver.query populator.config user)] := by
    rw [hasked]
    exact Makes.of_course (Gateway.consults_answering _ _ _)
  obtain ⟨asked, hooked, hhooked, hmakes, hcalls, -⟩ := Resolver.resolve_makes user hsearch
  refine ⟨asked, hooked, hhooked, hmakes, ?_⟩
  rcases hcalls with rfl | rfl
  · exact Or.inl rfl
  · exact Or.inr ⟨_, rfl⟩

/-- However a resolution ends, it leaves the scene as it was. -/
theorem exists_resolve_makes (scene : Scene) (populator : Populator) (connection : Connection)
    (user : User) : ∃ calls, Makes scene ((populator.resolver connection).resolve user) calls := by
  cases hgateway : populator.gateway with
  | directory gateway =>
    obtain ⟨_, _, -, hmakes, -⟩ := resolve_makes_directory scene hgateway connection user
    exact ⟨_, hmakes⟩
  | memory gateway =>
    obtain ⟨_, _, -, hmakes, -⟩ := resolve_makes_memory scene hgateway connection user
    exact ⟨_, hmakes⟩

end Populator

end GrantedRoles
