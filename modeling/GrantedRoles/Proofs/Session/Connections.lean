import GrantedRoles.Proofs.Directory.Hold
import GrantedRoles.Proofs.Populating
import GrantedRoles.Proofs.Session.Steps

/-!
# Connections over a whole session

A process that creates populators and resolves users, step after step, holds no connection between
its steps, whatever fails in them. `step_wired` follows one step, `runAll_wired` a run, and
`connection_discipline` says of every run what its steps ask of the directory.
-/

set_option autoImplicit false

namespace GrantedRoles

open Log

/-! ## What is held while populators work -/

theorem Call.isApart_of_isHook {c : Call} (h : c.isHook = true) : c.IsApart := by
  cases c <;> first | exact ⟨rfl, rfl⟩ | cases h

/-- An offered gateway to a directory opens connections. -/
theorem GatewayOffer.isOpening_of_accept {offer : GatewayOffer} {gateway : DirectoryGateway}
    (h : offer.accept = .ok (.directory gateway)) : gateway.opening.isOpening = true := by
  cases offer with
  | memory _ => cases h
  | directory rootDn connection =>
    obtain ⟨made, hmade, hsame⟩ := exists_of_map_eq_ok h
    cases hsame
    rw [DirectoryGateway.eq_of_create hmade]
    rfl

namespace Populator

/-- Choosing a gateway has nothing to do with a connection. -/
theorem isApart_of_mem_choosing (settings : Settings) (supplied : Option GatewayChoice) :
    ∀ c ∈ choosing settings supplied, c.IsApart := by
  unfold choosing
  cases supplied with
  | some gateway => simp
  | none =>
    simp only
    split
    · simp [Call.IsApart, Call.isOpening, Call.needsConnection]
    · simp

/-- A resolution holds no connection afterwards, however it ends. -/
theorem exists_resolve_held (scene : Scene) {populator : Populator}
    (hopens : ∀ gateway, populator.gateway = .directory gateway → gateway.opening.isOpening = true)
    (connection : Connection) (user : User) :
    ∃ calls, Makes scene ((populator.resolver connection).resolve user) calls ∧
      Hold.nothing.afterAll? connection calls = some .nothing := by
  have hhooks : ∀ {hooked : List Call}, (∀ c ∈ hooked, c.isHook = true) →
      Hold.nothing.afterAll? connection hooked = some .nothing := by
    intro hooked hhooked
    exact Hold.afterAll?_of_isApart fun c hc => Call.isApart_of_isHook (hhooked c hc)
  -- A directory is visited over one connection or not at all; memory needs none.
  cases hgateway : populator.gateway with
  | directory gateway =>
    obtain ⟨asked, hooked, hhooked, hmakes, hasked, -⟩ :=
      resolve_makes_directory scene hgateway connection user
    refine ⟨asked ++ hooked, hmakes, ?_⟩
    have hheld : Hold.nothing.afterAll? connection asked = some .nothing := by
      rcases hasked with rfl | hvisit
      · rfl
      · exact Hold.afterAll?_of_visit (hopens gateway hgateway) hvisit
    exact (Hold.afterAll?_append hheld).trans (hhooks hhooked)
  | memory gateway =>
    obtain ⟨asked, hooked, hhooked, hmakes, hasked⟩ :=
      resolve_makes_memory scene hgateway connection user
    refine ⟨asked ++ hooked, hmakes, ?_⟩
    have hheld : Hold.nothing.afterAll? connection asked = some .nothing := by
      rcases hasked with rfl | ⟨query, rfl⟩
      · rfl
      · rfl
    exact (Hold.afterAll?_append hheld).trans (hhooks hhooked)

end Populator

/-! ## Settings of a store -/

/-- Settings objects that were made and not assigned to. -/
def SettingsStore.IsMade (store : SettingsStore) : Prop :=
  ∀ object ∈ store.objects, ∃ settings : Settings,
    object = SettingsObject.ofSettings settings ∧ settings.Hold

theorem SettingsStore.IsMade.fetch {store : SettingsStore} (h : store.IsMade) :
    store.fetch.2.IsMade := by
  unfold SettingsStore.fetch
  split
  · exact h
  · split
    · exact h
    · next settings hmade =>
      exact List.forall_mem_append.2
        ⟨h, List.forall_mem_singleton.2 ⟨settings, rfl, Settings.hold_of_construct hmade⟩⟩

/-- What is fetched was made, earlier or just now. -/
theorem SettingsStore.IsMade.hold_of_fetch {store : SettingsStore} (h : store.IsMade) {id : Nat}
    {object : SettingsObject} (hfetch : store.fetch.1 = .ok (id, object)) {settings : Settings}
    (hsettings : object.settings = .ok settings) : settings.Hold := by
  have hobject : ∃ made : Settings, object = SettingsObject.ofSettings made ∧ made.Hold := by
    unfold SettingsStore.fetch at hfetch
    split at hfetch
    · next found hfound =>
      cases hfetch
      obtain ⟨number, -, hkept⟩ := Option.bind_eq_some_iff.1 hfound
      obtain ⟨kept, hread, hsame⟩ := Option.map_eq_some_iff.1 hkept
      cases hsame
      exact h object (List.mem_of_getElem? hread)
    · split at hfetch
      · cases hfetch
      · next made hmade =>
        cases hfetch
        exact ⟨made, rfl, Settings.hold_of_construct hmade⟩
  obtain ⟨made, rfl, hhold⟩ := hobject
  rw [SettingsObject.settings_ofSettings] at hsettings
  cases hsettings
  exact hhold

namespace Session

/-- The settings for a populator are of their kinds, whether they were given or fetched. -/
theorem hold_of_settingsFor {session : Session} (h : session.store.IsMade)
    {arguments : Option (Assoc Value)} {settings : Settings}
    (hsettings : session.settingsFor arguments = .ok settings) : settings.Hold := by
  obtain ⟨given, hgiven, hsettings⟩ := exists_of_bind_eq_ok hsettings
  cases arguments with
  | some given =>
    obtain ⟨made, hmade, rfl⟩ := exists_of_map_eq_ok hgiven
    cases hsettings
    exact Settings.hold_of_construct hmade
  | none =>
    cases hgiven
    obtain ⟨⟨id, object⟩, hfetch, hheld⟩ := exists_of_bind_eq_ok hsettings
    exact h.hold_of_fetch hfetch hheld

theorem FetchesAtMost.isMade {store after : SettingsStore} (h : FetchesAtMost store after)
    (hmade : store.IsMade) : after.IsMade := by
  rcases h with rfl | rfl
  · exact hmade
  · exact hmade.fetch

end Session

/-! ## Runs of a session -/

/-- A step that creates a populator or resolves a user. -/
def SessionAction.IsPopulating : SessionAction → Prop
  | .create _ _ _ => True
  | .resolve _ => True
  | _ => False

namespace Session

/-- What is held after the steps of a run, if all their calls are in their places. The session keeps
how connections behaved in its last step. -/
def holdAfter? (session : Session) (hold : Hold) : List SessionStep → Option Hold
  | [] => some hold
  | s :: rest =>
      let (report, next) := session.step s
      (hold.afterAll? next.connection report.calls).bind fun held => next.holdAfter? held rest

/-- The settings that the populator's own gateway was built from, after a creation with this answer;
none if the gateway was supplied. A creation that fails leaves the populator that is there. -/
def builtWith (session : Session) (arguments : Option (Assoc Value)) (offer : Option GatewayOffer)
    (answer : Answer) (built : Option Settings) : Option Settings :=
  match offer, answer with
  | none, .created _ => (session.settingsFor arguments).toOption
  | some _, .created _ => none
  | _, _ => built

/-- The settings that the populator's own gateway was built from, after a step. -/
def builtBy (session : Session) (s : SessionStep) (built : Option Settings) : Option Settings :=
  match s.action with
  | .create arguments offer _ =>
      session.builtWith arguments offer (session.step s).1.answer built
  | _ => built

/-- The settings that the populator's own gateway was built from, after the steps of a run. -/
def builtAfter (session : Session) (built : Option Settings) : List SessionStep → Option Settings
  | [] => built
  | s :: rest => (session.step s).2.builtAfter (session.builtBy s built) rest

/-- Nothing refuses a call of logging or was assigned to settings, a gateway to a directory opens
connections, and one that was built is the one of its settings. -/
structure Wired (session : Session) (built : Option Settings) : Prop where
  undisturbed : session.ambient.scene.Undisturbed
  made : session.store.IsMade
  opens : ∀ populator gateway, session.populator = some populator →
    populator.gateway = .directory gateway → gateway.opening.isOpening = true
  built : ∀ settings, built = some settings → settings.Hold ∧
    ∃ populator, session.populator = some populator ∧
      populator.gateway = .directory ⟨settings.get .rootDn, Populator.opening settings⟩ ∧
      settings.groupSearch = .ok populator.config

variable {session : Session} {built : Option Settings}

/-- How connections behave does not matter for what is wired. -/
theorem Wired.ready (h : session.Wired built) (connection : Connection) :
    { session with connection }.Wired built :=
  ⟨h.undisturbed, h.made, h.opens, h.built⟩

/-- A process that has created nothing yet is wired. -/
theorem wired_fresh {store : SettingsStore} (hmade : store.IsMade) (connection : Connection) :
    ({ store, connection } : Session).Wired none where
  undisturbed := .fresh
  made := hmade
  opens := by
    intro _ _ h
    cases h
  built := by
    intro _ h
    cases h

theorem step_of_act {s : SessionStep} {answer : Answer} {calls : List Call} {lines : List Line}
    {next : Session}
    (h : { session with connection := s.connection.getD session.connection }.act s.action
      = (answer, calls, lines, next)) :
    session.step s = ({ answer, calls, lines, context := next.context }, next) := by
  simp only [step, h]

/-! ## Steps that create -/

/-- What a creation comes to once its settings and its gateway are there. -/
theorem create_performed (session : Session) {arguments : Option (Assoc Value)}
    {offer : Option GatewayOffer} {settings : Settings} {supplied : Option GatewayChoice}
    (hooks : Hooks) (hsettings : session.settingsFor arguments = .ok settings)
    (hoffer : offer.mapM GatewayOffer.accept = .ok supplied) :
    let configured :=
      session.logging.configure (settings.get .serviceName) (settings.get .logLevel)
    let outcome := configured.1.bind fun _ =>
      Populator.wiring ⟨session.context, configured.2⟩ settings supplied hooks
    ∃ lines next, session.create arguments offer hooks
        = (.ofCreation outcome, configured.1.toOption.elim [] fun _ =>
            Populator.choosing settings supplied, lines, next) ∧
      next.ambient.Shows ⟨session.context, configured.2⟩ ∧
      FetchesAtMost session.store next.store ∧
      next.populator = outcome.toOption.or session.populator := by
  intro configured outcome
  obtain ⟨given, store, connection, hfetched, hcreate⟩ :=
    create_of_accepted hooks hsettings hoffer
  have hstore := fetchesAtMost_of_settingsOr hfetched
  obtain ⟨after, hrun, hshows, hcalls⟩ :=
    Populator.create_run settings supplied hooks session.ambient
  -- Neither the store nor the connections are in the ambient of the action.
  change (Populator.create settings supplied hooks).run { session with store, connection }.ambient
    = (outcome, after) at hrun
  rw [hcreate]
  cases houtcome : outcome with
  | error failure =>
    rw [houtcome] at hrun
    rw [perform_of_error hrun, hcalls]
    exact ⟨_, _, rfl, ⟨hshows.context, hshows.logging⟩, hstore, rfl⟩
  | ok populator =>
    rw [houtcome] at hrun
    rw [perform_of_ok hrun, hcalls]
    exact ⟨_, _, rfl, ⟨hshows.context, hshows.logging⟩, hstore, rfl⟩

/-- Creating leaves logging undisturbed. -/
theorem Wired.undisturbed_of_shows {next : Session} (h : session.Wired built)
    {arguments : Option (Assoc Value)} {settings : Settings}
    (hsettings : session.settingsFor arguments = .ok settings)
    (hshows : next.ambient.Shows ⟨session.context,
      (session.logging.configure (settings.get .serviceName) (settings.get .logLevel)).2⟩) :
    next.ambient.scene.Undisturbed :=
  (h.undisturbed.configure ((hold_of_settingsFor h.made hsettings).isWritable .serviceName)
    _).of_shows hshows

/-- A session is wired if its populator is. -/
theorem wired_of_populator {populator : Populator} (hundisturbed : session.ambient.scene.Undisturbed)
    (hmade : session.store.IsMade) (hpopulator : session.populator = some populator)
    (hopens : ∀ gateway, populator.gateway = .directory gateway →
      gateway.opening.isOpening = true)
    (hbuilt : ∀ settings, built = some settings → settings.Hold ∧
      populator.gateway = .directory ⟨settings.get .rootDn, Populator.opening settings⟩ ∧
      settings.groupSearch = .ok populator.config) :
    session.Wired built where
  undisturbed := hundisturbed
  made := hmade
  opens := by
    intro other gateway hother
    rw [hpopulator] at hother
    cases hother
    exact hopens gateway
  built := by
    intro settings hsettings
    obtain ⟨hhold, hparts⟩ := hbuilt settings hsettings
    exact ⟨hhold, populator, hpopulator, hparts⟩

/-- A creation that succeeds leaves a populator that is wired as its settings or the offer say. -/
theorem wired_of_created {next : Session} {arguments : Option (Assoc Value)}
    {offer : Option GatewayOffer} {settings : Settings} {supplied : Option GatewayChoice}
    {hooks : Hooks} {populator : Populator} {scene : Scene}
    (hundisturbed : next.ambient.scene.Undisturbed) (hmade : next.store.IsMade)
    (hsettings : session.settingsFor arguments = .ok settings) (hhold : settings.Hold)
    (hoffer : offer.mapM GatewayOffer.accept = .ok supplied)
    (hcreated : Populator.wiring scene settings supplied hooks = .ok populator)
    (hpopulator : next.populator = some populator) :
    next.Wired (session.builtWith arguments offer (.created populator) built) := by
  obtain ⟨hchosen, hconfig⟩ := Populator.parts_of_wiring hcreated
  cases offer with
  | none =>
    -- The gateway was built from the settings.
    rw [Option.mapM_none] at hoffer
    cases hoffer
    have hgateway := Populator.gateway_of_chosen hchosen
    apply wired_of_populator hundisturbed hmade hpopulator
    · intro directory hdirectory
      rw [hgateway] at hdirectory
      cases hdirectory
      rfl
    · intro source hsource
      simp only [builtWith, hsettings] at hsource
      cases hsource
      exact ⟨hhold, hgateway, hconfig⟩
  | some offered =>
    -- The gateway is the one that was offered.
    rw [Option.mapM_some] at hoffer
    obtain ⟨made, haccept, rfl⟩ := exists_of_map_eq_ok hoffer
    have hgateway : made = populator.gateway := Except.ok.inj hchosen
    apply wired_of_populator hundisturbed hmade hpopulator
    · intro directory hdirectory
      rw [hgateway, hdirectory] at haccept
      exact GatewayOffer.isOpening_of_accept haccept
    · intro source hsource
      cases hsource

/-- What is wired stays wired as long as the populator does and nothing disturbs logging. -/
theorem Wired.of_populator_eq {next : Session} (h : session.Wired built)
    (hundisturbed : next.ambient.scene.Undisturbed) (hmade : next.store.IsMade)
    (hpopulator : next.populator = session.populator) : next.Wired built where
  undisturbed := hundisturbed
  made := hmade
  opens := by
    rw [hpopulator]
    exact h.opens
  built := by
    rw [hpopulator]
    exact h.built

theorem builtWith_failed (session : Session) (arguments : Option (Assoc Value))
    (offer : Option GatewayOffer) (failure : Failure) (built : Option Settings) :
    session.builtWith arguments offer (.failed failure) built = built := by
  cases offer <;> rfl

/-- A creation has nothing to do with a connection, and it leaves the session wired. -/
theorem create_wired (h : session.Wired built) (arguments : Option (Assoc Value))
    (offer : Option GatewayOffer) (hooks : Hooks) :
    ∃ answer calls lines next,
      session.create arguments offer hooks = (answer, calls, lines, next) ∧
      (∀ c ∈ calls, c.IsApart) ∧
      next.Wired (session.builtWith arguments offer answer built) := by
  rcases session.create_cases arguments offer hooks with
    ⟨settings, supplied, hsettings, hoffer⟩ | ⟨failure, store, connection, hstore, hcreate⟩
  · obtain ⟨lines, next, hcreate, hshows, hstore, hpopulator⟩ :=
      session.create_performed hooks hsettings hoffer
    have hundisturbed := h.undisturbed_of_shows hsettings hshows
    have hmade := hstore.isMade h.made
    refine ⟨_, _, lines, next, hcreate, ?_, ?_⟩
    · cases (session.logging.configure (settings.get .serviceName)
        (settings.get .logLevel)).1 with
      | error failure => simp [Except.toOption]
      | ok _ => exact Populator.isApart_of_mem_choosing settings supplied
    · cases houtcome : (session.logging.configure (settings.get .serviceName)
          (settings.get .logLevel)).1.bind fun _ => Populator.wiring ⟨session.context,
            (session.logging.configure (settings.get .serviceName) (settings.get .logLevel)).2⟩
            settings supplied hooks with
      | error failure =>
        rw [houtcome] at hpopulator
        rw [Answer.ofCreation, builtWith_failed]
        exact h.of_populator_eq hundisturbed hmade hpopulator
      | ok populator =>
        rw [houtcome] at hpopulator
        obtain ⟨_, -, hcreated⟩ := exists_of_bind_eq_ok houtcome
        exact wired_of_created hundisturbed hmade hsettings
          (hold_of_settingsFor h.made hsettings) hoffer hcreated hpopulator
  · refine ⟨_, _, _, _, hcreate, by simp, ?_⟩
    rw [builtWith_failed]
    exact h.of_populator_eq h.undisturbed (hstore.isMade h.made) rfl

/-! ## Steps that resolve -/

/-- A resolution leaves everything but its calls, its lines and the loggers that it used. -/
theorem resolve_performed {populator : Populator} {user : User} {calls : List Call}
    (h : session.ambient.scene.Undisturbed) (hpopulator : session.populator = some populator)
    (hmakes : Makes session.ambient.scene
      ((populator.resolver session.connection).resolve user) calls) :
    ∃ answer lines after, session.act (.resolve user) = (answer, calls, lines, session.left after) ∧
      after.scene.Undisturbed := by
  obtain ⟨outcome, after, hrun, hshows, hcalls⟩ := hmakes.exists_run
  have hcalled : after.calls = calls := hcalls
  simp only [act, hpopulator]
  cases outcome with
  | error failure =>
    rw [perform_of_error hrun, hcalled]
    exact ⟨_, _, after, rfl, h.of_shows hshows⟩
  | ok roles =>
    rw [perform_of_ok hrun, hcalled]
    exact ⟨_, _, after, rfl, h.of_shows hshows⟩

/-- A resolution leaves the session wired and holds no connection afterwards. -/
theorem resolve_wired (h : session.Wired built) (user : User) :
    ∃ answer calls lines next, session.act (.resolve user) = (answer, calls, lines, next) ∧
      Hold.nothing.afterAll? next.connection calls = some .nothing ∧ next.Wired built := by
  cases hpopulator : session.populator with
  | none =>
    refine ⟨.noObject, [], [], session, ?_, rfl, h⟩
    simp only [act, hpopulator]
  | some populator =>
    obtain ⟨calls, hmakes, hheld⟩ := Populator.exists_resolve_held session.ambient.scene
      (fun gateway => h.opens populator gateway hpopulator) session.connection user
    obtain ⟨answer, lines, after, hact, hundisturbed⟩ :=
      resolve_performed h.undisturbed hpopulator hmakes
    exact ⟨answer, calls, lines, _, hact, hheld, h.of_populator_eq hundisturbed h.made rfl⟩

/-! ## Whole runs -/

/-- One step leaves the session wired and holds no connection afterwards. -/
theorem step_wired (h : session.Wired built) {s : SessionStep} (hs : s.action.IsPopulating) :
    (session.step s).2.Wired (session.builtBy s built) ∧
      Hold.nothing.afterAll? (session.step s).2.connection (session.step s).1.calls
        = some .nothing := by
  have hready := h.ready (s.connection.getD session.connection)
  unfold builtBy
  cases haction : s.action with
  | create arguments offer hooks =>
    obtain ⟨answer, calls, lines, next, hcreate, hcalls, hwired⟩ :=
      create_wired hready arguments offer hooks
    have hact : { session with connection := s.connection.getD session.connection }.act s.action
        = (answer, calls, lines, next) := by
      rw [haction]
      exact hcreate
    rw [step_of_act hact]
    exact ⟨hwired, Hold.afterAll?_of_isApart hcalls⟩
  | resolve user =>
    obtain ⟨answer, calls, lines, next, hresolve, hheld, hwired⟩ := resolve_wired hready user
    rw [← haction] at hresolve
    rw [step_of_act hresolve]
    exact ⟨hwired, hheld⟩
  | _ =>
    rw [haction] at hs
    cases hs

/-- A run leaves the session wired and holds no connection afterwards. -/
theorem runAll_wired {steps : List SessionStep} (h : session.Wired built)
    (hsteps : ∀ s ∈ steps, s.action.IsPopulating) :
    (session.runAll steps).2.Wired (session.builtAfter built steps) ∧
      session.holdAfter? .nothing steps = some .nothing := by
  induction steps generalizing session built with
  | nil => exact ⟨h, rfl⟩
  | cons s rest ih =>
    rw [List.forall_mem_cons] at hsteps
    obtain ⟨hs, hrest⟩ := hsteps
    -- Nothing is held after the first step, so the rest starts as the run did.
    obtain ⟨hwired, hheld⟩ := step_wired h hs
    obtain ⟨hlast, hended⟩ := ih hwired hrest
    refine ⟨hlast, ?_⟩
    simp only [holdAfter?, hheld, Option.bind_some]
    exact hended

/-! ## The discipline -/

/-- What the creation of a populator is to the directory. It opens no connection. It makes the
server of its settings ready, or fails because they name none, unless a gateway is supplied; then it
makes nothing ready, and answers as it would if the settings named any other directory, or none. -/
structure CreatesIdly (session : Session) (arguments : Option (Assoc Value))
    (offer : Option GatewayOffer) (hooks : Hooks) (report : Report) : Prop where
  opens_none : ∀ c ∈ report.calls, c.isOpening = false
  built : offer = none → ∀ settings, session.settingsFor arguments = .ok settings →
    (session.logging.configure (settings.get .serviceName) (settings.get .logLevel)).1 = .ok () →
    if (settings.get .ldapUrl).isTruthy then report.calls = [.server (settings.get .ldapUrl)]
    else report.calls = [] ∧ report.answer = .failed (.configuration .noDirectoryUrl)
  supplied : offer.isSome → report.calls = []
  any_url : ∀ offered gateway settings url, offer = some offered →
    offered.accept = .ok gateway → session.settingsFor arguments = .ok settings →
    report.answer = .ofCreation ((Populator.create (settings.set .ldapUrl url) (some gateway)
      hooks).run session.ambient).1

/-- What a resolution is to the directory of the settings that its gateway was built from. One
connection is opened, as the user of the settings, bound at once and only reading, if the groups of
the user are searched, and none if they are not; then only hooks are called. -/
def AsksDirectory (settings : Settings) (connection : Connection) (user : User)
    (calls : List Call) : Prop :=
  ∃ asked hooked, calls = asked ++ hooked ∧ (∀ c ∈ hooked, c.isHook = true) ∧
    (SearchesGroups (settings.get .groupSearchBase) (settings.get .groupSearchFilter) user →
      DirectoryGateway.Visit (.connection (settings.get .ldapUrl) (settings.get .bindDn)
        (settings.get .bindPassword) true true) connection asked) ∧
    (¬ SearchesGroups (settings.get .groupSearchBase) (settings.get .groupSearchFilter) user →
      asked = [])

/-- With a supplied gateway a creation calls nobody. -/
theorem calls_of_supplied {arguments : Option (Assoc Value)} {offered : GatewayOffer}
    {hooks : Hooks} {answer : Answer} {calls : List Call} {lines : List Line} {next : Session}
    (hcreate : session.create arguments (some offered) hooks = (answer, calls, lines, next)) :
    calls = [] := by
  rcases session.create_cases arguments (some offered) hooks with
    ⟨settings, supplied, hsettings, hoffer⟩ | ⟨_, _, _, -, hrefused⟩
  · obtain ⟨_, _, hperformed, -⟩ := session.create_performed hooks hsettings hoffer
    rw [hcreate] at hperformed
    cases hperformed
    rw [Option.mapM_some] at hoffer
    obtain ⟨gateway, -, rfl⟩ := exists_of_map_eq_ok hoffer
    cases (session.logging.configure (settings.get .serviceName) (settings.get .logLevel)).1 <;> rfl
  · rw [hcreate] at hrefused
    cases hrefused
    rfl

theorem createsIdly_of_wired (h : session.Wired built) {arguments : Option (Assoc Value)}
    {offer : Option GatewayOffer} {hooks : Hooks} {answer : Answer} {calls : List Call}
    {lines : List Line} {next : Session} (context : Context)
    (hcreate : session.create arguments offer hooks = (answer, calls, lines, next)) :
    session.CreatesIdly arguments offer hooks { answer, calls, lines, context } where
  opens_none := by
    intro c hc
    obtain ⟨_, _, _, _, hwired, hcalls, -⟩ := create_wired h arguments offer hooks
    rw [hcreate] at hwired
    cases hwired
    exact (hcalls c hc).1
  built := by
    intro hoffer settings hsettings hconfigured
    subst hoffer
    have hnone : (none : Option GatewayOffer).mapM GatewayOffer.accept = .ok none := rfl
    obtain ⟨_, _, hperformed, -⟩ := session.create_performed hooks hsettings hnone
    rw [hcreate, hconfigured] at hperformed
    cases hperformed
    by_cases hurl : (settings.get .ldapUrl).isTruthy = true
    · rw [if_pos hurl]
      exact if_pos hurl
    · rw [if_neg hurl]
      refine ⟨if_neg hurl, ?_⟩
      have hchosen : Populator.chosen settings none = .error (.configuration .noDirectoryUrl) :=
        if_neg hurl
      change Answer.ofCreation (Populator.wiring _ settings none hooks) = _
      unfold Populator.wiring
      rw [hchosen]
      rfl
  supplied := by
    intro hoffer
    obtain ⟨offered, rfl⟩ := Option.isSome_iff_exists.1 hoffer
    exact calls_of_supplied hcreate
  any_url := by
    intro offered gateway settings url hoffer haccept hsettings
    subst hoffer
    have hsome : (some offered).mapM GatewayOffer.accept = .ok (some gateway) := by
      rw [Option.mapM_some, haccept]
      rfl
    obtain ⟨_, _, hperformed, -⟩ := session.create_performed hooks hsettings hsome
    obtain ⟨_, hrun, -⟩ := Populator.create_run settings (some gateway) hooks session.ambient
    rw [hcreate] at hperformed
    cases hperformed
    -- A supplied gateway is taken whatever the address is, so the run is the same.
    rw [Populator.create_set_ldapUrl, hrun]
    rfl

theorem asksDirectory_of_wired {settings : Settings} (h : session.Wired (some settings))
    (user : User) {answer : Answer} {calls : List Call} {lines : List Line} {next : Session}
    (hresolve : session.act (.resolve user) = (answer, calls, lines, next)) :
    AsksDirectory settings session.connection user calls := by
  obtain ⟨hhold, populator, hpopulator, hgateway, hconfig⟩ := h.built settings rfl
  obtain ⟨hbase, hfilter⟩ := Settings.parts_of_groupSearch hconfig
  obtain ⟨asked, hooked, hhooked, hmakes, -, hheard⟩ :=
    Populator.resolve_makes_directory session.ambient.scene hgateway session.connection user
  obtain ⟨_, _, _, hact, -⟩ := resolve_performed h.undisturbed hpopulator hmakes
  rw [hact] at hresolve
  cases hresolve
  rw [hbase, hfilter] at hheard
  obtain ⟨hvisit, hidle⟩ := hheard h.undisturbed.hears (hhold.isWritable _) (hhold.isWritable _)
    (hhold.isWritable .rootDn)
  exact ⟨asked, hooked, rfl, hhooked, hvisit, hidle⟩

/-- **Connections are disciplined.** Whatever a session creates and resolves from its start
(`wired_fresh`), with whatever settings, gateways, hooks and failures of its connections, it holds
no connection between its steps: every connection that was obtained was searched at most once and
released once, after that, before its step ended. Every creation opens none, and every resolution
over a gateway that the session built itself opens one exactly if it searches. -/
theorem connection_discipline {start : Session} (hstart : start.Wired none)
    {earlier : List SessionStep} (hearlier : ∀ s ∈ earlier, s.action.IsPopulating)
    {s : SessionStep} (hs : s.action.IsPopulating) :
    let session := (start.runAll earlier).2
    let report := (session.step s).1
    start.holdAfter? .nothing (earlier ++ [s]) = some .nothing ∧
      (∀ arguments offer hooks, s.action = .create arguments offer hooks →
        session.CreatesIdly arguments offer hooks report) ∧
      ∀ user settings, s.action = .resolve user → start.builtAfter none earlier = some settings →
        AsksDirectory settings (s.connection.getD session.connection) user report.calls := by
  intro session report
  have hwired := (runAll_wired hstart hearlier).1
  have hready := hwired.ready (s.connection.getD session.connection)
  have hall : ∀ t ∈ earlier ++ [s], t.action.IsPopulating :=
    List.forall_mem_append.2 ⟨hearlier, List.forall_mem_singleton.2 hs⟩
  refine ⟨(runAll_wired hstart hall).2, ?_, ?_⟩
  · intro arguments offer hooks haction
    obtain ⟨answer, calls, lines, next, hcreate, -⟩ := create_wired hready arguments offer hooks
    have hidle := createsIdly_of_wired hready next.context hcreate
    change Session.act _ (.create arguments offer hooks) = _ at hcreate
    rw [← haction] at hcreate
    change session.CreatesIdly arguments offer hooks (session.step s).1
    rw [step_of_act hcreate]
    exact ⟨hidle.opens_none, hidle.built, hidle.supplied, hidle.any_url⟩
  · intro user settings haction hbuilt
    rw [hbuilt] at hready
    obtain ⟨answer, calls, lines, next, hresolve, -⟩ := resolve_wired hready user
    have hasks := asksDirectory_of_wired hready user hresolve
    rw [← haction] at hresolve
    change AsksDirectory settings _ user (session.step s).1.calls
    rw [step_of_act hresolve]
    exact hasks

/-- A session in which a search is cut off, its connection cannot even be released, and that is not
what the directory reports: no connection is held afterwards. -/
theorem connection_discipline_cut_off :
    let creation : SessionStep :=
      { action := .create (some [("ldap_url", .text "ldap://directory"),
          ("group_search_base", .text "ou=groups"), ("bind_dn", .text "cn=reader")]) none {} }
    let cutOff : Connection :=
      { searchFailure := some (.directory ⟨"LDAPSocketReceiveError", "reset"⟩)
        unbindFailure := some (.foreign .runtime "gone") }
    let user : User := ⟨"uid=ben,dc=x", "ben", []⟩
    let resolution : SessionStep := { action := .resolve user, connection := some cutOff }
    let start : Session := {}
    start.Wired none ∧ (∀ s ∈ [creation], s.action.IsPopulating) ∧
      resolution.action.IsPopulating ∧
      start.holdAfter? .nothing [creation, resolution] = some .nothing ∧
      ∃ settings, start.builtAfter none [creation] = some settings ∧
        AsksDirectory settings cutOff user
          ((start.runAll [creation]).2.step resolution).1.calls := by
  intro creation cutOff user resolution start
  have hmade : SettingsStore.IsMade {} := List.forall_mem_nil _
  have hstart : start.Wired none := wired_fresh hmade {}
  have hearlier : ∀ s ∈ [creation], s.action.IsPopulating := by
    simp [creation, SessionAction.IsPopulating]
  have hresolution : resolution.action.IsPopulating := trivial
  have hbuilt : (start.builtAfter none [creation]).isSome = true := by decide +kernel
  obtain ⟨settings, hsettings⟩ := Option.isSome_iff_exists.1 hbuilt
  obtain ⟨hheld, -, hasks⟩ := connection_discipline hstart hearlier hresolution
  exact ⟨hstart, hearlier, hresolution, hheld, settings, hsettings,
    hasks user settings rfl hsettings⟩

end Session

end GrantedRoles
