import GrantedRoles.Proofs.Populating
import GrantedRoles.Proofs.Process.Cache

/-!
# What connections of a process are opened with

A gateway that was built from settings opens a connection with the user and the password that they
hold when it does so, not with those that they held when it was built. A process reads them again
after each assignment. Nothing is stale then at any time (`inStep_proceedAll`): whenever a
connection is opened, reading the settings again would change nothing.
-/

set_option autoImplicit false

namespace GrantedRoles

/-! ## Reading again -/

/-- Settings that an object holds are opened with as the object is read. -/
theorem Populator.opening_reread {object : SettingsObject} {settings : Settings}
    (h : object.settings = .ok settings) :
    (opening settings).reread object = opening settings := by
  have hheld : settings = object.held := by
    unfold SettingsObject.settings SettingsObject.holding at h
    cases hread : (SettingField.all.forM fun field => do
        let _ ← object.read field.name
        pure ()) with
    | error failure =>
      rw [hread] at h
      cases h
    | ok done =>
      rw [hread] at h
      cases h
      rfl
  subst hheld
  -- Both read the object; where it holds nothing, reading again keeps what was read.
  have hkept (name : String) : (object.read name).toOption.getD
      ((object.read name).toOption.getD .null) = (object.read name).toOption.getD .null := by
    cases (object.read name).toOption <;> rfl
  simp only [opening, Call.reread, SettingsObject.held, hkept]

/-- A populator whose gateway is built from settings that an object holds need not be wired again
from that object. -/
theorem Populator.reread_of_create {object : SettingsObject} {settings : Settings} {hooks : Hooks}
    {populator : Populator} {ambient after : Ambient} (hheld : object.settings = .ok settings)
    (hrun : (create settings none hooks).run ambient = (.ok populator, after)) :
    populator.reread object = populator := by
  obtain ⟨left, hcreate, -⟩ := create_run settings none hooks ambient
  obtain ⟨houtcome, -⟩ := Prod.mk.inj (hrun.symm.trans hcreate)
  obtain ⟨-, -, hwiring⟩ := exists_of_bind_eq_ok houtcome.symm
  have hgateway := gateway_of_chosen (parts_of_wiring hwiring).1
  rw [reread, hgateway, GatewayChoice.reread, opening_reread hheld, ← hgateway]

theorem Call.reread_reread (c : Call) (object : SettingsObject) :
    (c.reread object).reread object = c.reread object := by
  cases c with
  | connection url user password autoBind readOnly =>
    simp only [reread]
    cases (object.read SettingField.bindDn.name).toOption <;>
      cases (object.read SettingField.bindPassword.name).toOption <;> rfl
  | _ => rfl

theorem Populator.reread_reread (populator : Populator) (object : SettingsObject) :
    (populator.reread object).reread object = populator.reread object := by
  obtain ⟨gateway, config, hooks⟩ := populator
  cases gateway with
  | directory gateway => simp only [reread, GatewayChoice.reread, Call.reread_reread]
  | memory gateway => rfl

namespace Session

/-- The populator of a session opens connections with what the settings hold that it was built
from: these are settings of the store, and reading them again changes nothing. -/
structure InStep (session : Session) : Prop where
  known : ∀ id, session.source = some id → id < session.store.objects.length
  reread : ∀ id object, session.source = some id → session.store.object? id = some object →
    session.populator.map (Populator.reread object) = session.populator

variable {session next : Session}

/-- What is in step need not be wired again. -/
theorem InStep.rewire_eq (h : session.InStep) : session.rewire = session := by
  unfold rewire
  cases hsource : session.source.bind session.store.object? with
  | none => rfl
  | some object =>
    obtain ⟨id, hid, hobject⟩ := Option.bind_eq_some_iff.1 hsource
    simp only [h.reread id object hid hobject]

/-- A session whose populator was not built from settings of the store. -/
theorem inStep_of_source_none (h : session.source = none) : session.InStep where
  known := by
    intro id hid
    rw [h] at hid
    cases hid
  reread := by
    intro id object hid
    rw [h] at hid
    cases hid

/-- The populator is still in step if it is the same and settings were made at most. -/
theorem InStep.of_kept (h : session.InStep) (hobjects : session.store.objects <+: next.store.objects)
    (hpopulator : next.populator = session.populator) (hsource : next.source = session.source) :
    next.InStep where
  known := by
    intro id hid
    exact Nat.lt_of_lt_of_le (h.known id (hsource ▸ hid)) hobjects.length_le
  reread := by
    intro id object hid hobject
    rw [hsource] at hid
    -- The object of the number is still the same.
    obtain ⟨made, hmade⟩ := hobjects
    rw [SettingsStore.object?, ← hmade, List.getElem?_append_left (h.known id hid)] at hobject
    rw [hpopulator]
    exact h.reread id object hid hobject

/-- Wiring again brings a session in step. -/
theorem inStep_rewire
    (hknown : ∀ id, session.source = some id → id < session.store.objects.length) :
    session.rewire.InStep := by
  unfold rewire
  cases hsource : session.source.bind session.store.object? with
  | none =>
    refine ⟨hknown, ?_⟩
    intro id object hid hobject
    rw [hid, Option.bind_some, hobject] at hsource
    cases hsource
  | some object =>
    refine ⟨hknown, ?_⟩
    intro id other hid hobject
    -- The settings that were read are the ones that are read again.
    change session.source = some id at hid
    change session.store.object? id = some other at hobject
    rw [hid, Option.bind_some, hobject] at hsource
    cases hsource
    simp only [Option.map_map]
    refine congrArg (Option.map · session.populator) ?_
    funext populator
    exact populator.reread_reread object

/-! ## Steps -/

theorem prefix_of_fetchesAtMost {store after : SettingsStore} (h : FetchesAtMost store after) :
    store.objects <+: after.objects := by
  rcases h with rfl | rfl
  · exact List.prefix_refl _
  · unfold SettingsStore.fetch
    split
    · exact List.prefix_refl _
    · split
      · exact List.prefix_refl _
      · exact List.prefix_append _ _

/-- Settings that are fetched are those of the cached object. -/
theorem exists_caches_of_settingsOr {store after : SettingsStore} {settings : Settings}
    (h : settingsOr none store = (.ok settings, after)) :
    ∃ id object, after.Caches id object ∧ object.settings = .ok settings := by
  obtain ⟨hsettings, hafter⟩ := Prod.mk.inj h
  obtain ⟨⟨id, object⟩, hfetched, hheld⟩ := exists_of_bind_eq_ok hsettings
  exact ⟨id, object, SettingsStore.caches_of_fetch (Prod.ext hfetched hafter), hheld⟩

/-- A populator is created in step: if its gateway is built from settings of the store, they are
the cached ones. -/
theorem inStep_create (h : session.InStep) (arguments : Option (Assoc Value))
    (offer : Option GatewayOffer) (hooks : Hooks) :
    (session.create arguments offer hooks).2.2.2.InStep := by
  rcases session.create_cases arguments offer hooks with
    ⟨settings, supplied, hsettings, hoffer⟩ | ⟨failure, store, connection, hstore, hcreate⟩
  · obtain ⟨given, store, connection, hfetched, hcreate⟩ :=
      create_of_accepted hooks hsettings hoffer
    let ready : Session := { session with store, connection }
    rw [hcreate]
    rcases hrun : (Populator.create settings supplied hooks).run ready.ambient with
      ⟨failure | populator, after⟩
    · rw [perform_of_error hrun]
      exact h.of_kept (prefix_of_fetchesAtMost (fetchesAtMost_of_settingsOr hfetched)) rfl rfl
    · rw [perform_of_ok hrun]
      -- The populator is new. Its number counts if neither settings nor a gateway were given.
      cases given with
      | some given => exact inStep_of_source_none rfl
      | none =>
        cases offer with
        | some offered => exact inStep_of_source_none rfl
        | none =>
          cases hoffer
          obtain ⟨id, object, hcaches, hheld⟩ := exists_caches_of_settingsOr hfetched
          constructor
          · intro other hother
            cases hcaches.cached.symm.trans hother
            exact hcaches.lt
          · intro other found hother hfound
            cases hcaches.cached.symm.trans hother
            cases hcaches.object.symm.trans hfound
            exact congrArg some (Populator.reread_of_create hheld hrun)
  · rw [hcreate]
    exact h.of_kept (prefix_of_fetchesAtMost hstore) rfl rfl

/-- What a session keeps of its populator: the populator, the number of its settings, and the
settings themselves. -/
def wiringOf (session : Session) : Option Populator × Option Nat × List SettingsObject :=
  (session.populator, session.source, session.store.objects)

theorem wiringOf_perform {α : Type} (session : Session) (action : Action α)
    {answer : α → Session → Answer × Session}
    (h : ∀ a next, (answer a next).2.wiringOf = next.wiringOf) :
    (session.perform action answer).2.2.2.wiringOf = session.wiringOf :=
  perform_keeps session action (fun _ => rfl) h

/-- Only a creation is about the populator. -/
theorem wiringOf_act (session : Session) {action : SessionAction}
    (h : ∀ arguments offer hooks, action ≠ .create arguments offer hooks) :
    (session.act action).2.2.2.wiringOf = session.wiringOf := by
  cases action with
  | create arguments offer hooks => exact absurd rfl (h arguments offer hooks)
  | configure service level => exact wiringOf_perform _ _ fun _ _ => rfl
  | log handle method event fields =>
    simp only [act]
    cases session.handles.get? handle with
    | none => rfl
    | some name => exact wiringOf_perform _ _ fun _ _ => rfl
  | unbindUser failure =>
    simp only [act]
    cases session.frames <;> rfl
  | openConnections arguments count =>
    simp only [act]
    cases Settings.construct session.store.machine session.store.environment arguments with
    | error failure => rfl
    | ok settings => exact wiringOf_perform _ _ fun _ _ => rfl
  | resolve user =>
    simp only [act]
    cases session.populator with
    | none => rfl
    | some populator => exact wiringOf_perform _ _ fun _ _ => rfl
  | _ => rfl

theorem InStep.of_wiringOf (h : session.InStep) (hwiring : next.wiringOf = session.wiringOf) :
    next.InStep := by
  obtain ⟨hpopulator, hrest⟩ := Prod.mk.inj hwiring
  obtain ⟨hsource, hobjects⟩ := Prod.mk.inj hrest
  exact h.of_kept (hobjects ▸ List.prefix_refl _) hpopulator hsource

theorem inStep_step (h : session.InStep) (s : SessionStep) : (session.step s).2.InStep := by
  let ready : Session := { session with connection := s.connection.getD session.connection }
  have hready : ready.InStep := h.of_wiringOf rfl
  change (ready.act s.action).2.2.2.InStep
  by_cases hcreates : ∃ arguments offer hooks, s.action = .create arguments offer hooks
  · obtain ⟨arguments, offer, hooks, haction⟩ := hcreates
    rw [haction]
    exact inStep_create hready arguments offer hooks
  · refine hready.of_wiringOf (ready.wiringOf_act ?_)
    intro arguments offer hooks haction
    exact hcreates ⟨arguments, offer, hooks, haction⟩

/-- An assignment is followed by reading again. -/
theorem inStep_proceed (h : session.InStep) (s : ProcessStep) : (session.proceed s).2.InStep := by
  cases s with
  | session s => exact inStep_step h s
  | make arguments =>
    refine h.of_kept ?_ rfl rfl
    simp only [proceed, SettingsStore.make]
    cases Settings.construct session.store.machine session.store.environment arguments with
    | error failure => exact List.prefix_refl _
    | ok settings => exact List.prefix_append _ _
  | get =>
    refine h.of_kept ?_ rfl rfl
    have hfetch : session.store.objects <+: session.store.fetch.2.objects :=
      prefix_of_fetchesAtMost (Or.inr rfl)
    simp only [proceed, SettingsStore.get]
    cases hfetched : session.store.fetch with
    | mk outcome after =>
      rw [hfetched] at hfetch
      cases outcome <;> exact hfetch
  | assign name value =>
    simp only [proceed]
    cases hassign : session.store.assign name value with
    | none => exact h
    | some assigned =>
      apply inStep_rewire
      intro id hid
      have hstep : StoreStep session.store (.assign name value) assigned.2 := .assign hassign
      exact Nat.lt_of_lt_of_le (h.known id hid) hstep.length_le

/-! ## Runs -/

/-- Nothing is stale. In a process whose populator is in step, as it is where none was created yet,
it stays so, whatever is assigned to which settings. -/
theorem inStep_proceedAll (h : session.InStep) (steps : List ProcessStep) :
    (session.proceedAll steps).2.InStep := by
  induction steps generalizing session with
  | nil => exact h
  | cons s rest ih => exact ih (inStep_proceed h s)

/-- **Settings count at each connection.** After any run of a process, a gateway that was built from
settings of the store opens its next connection with the user and the password that these hold
now: to wire it again would change nothing. -/
theorem opens_with_held (h : session.InStep) (steps : List ProcessStep) :
    let last := (session.proceedAll steps).2
    last.rewire = last ∧
    ∀ id object populator gateway, last.source = some id → last.store.object? id = some object →
      last.populator = some populator → populator.gateway = .directory gateway →
      ∀ url user password autoBind readOnly,
        gateway.opening = .connection url user password autoBind readOnly →
        (∀ held, object.read SettingField.bindDn.name = .ok held → user = held) ∧
        (∀ held, object.read SettingField.bindPassword.name = .ok held → password = held) := by
  intro last
  have hlast : last.InStep := inStep_proceedAll h steps
  refine ⟨hlast.rewire_eq, ?_⟩
  intro id object populator gateway hid hobject hpopulator hgateway url user password autoBind
    readOnly hopening
  have hreread := hlast.reread id object hid hobject
  rw [hpopulator, Option.map_some, Option.some.injEq] at hreread
  have hsame := congrArg Populator.gateway hreread
  simp only [Populator.reread, hgateway, GatewayChoice.reread, hopening, Call.reread,
    GatewayChoice.directory.injEq] at hsame
  have hcall := congrArg DirectoryGateway.opening hsame
  rw [hopening] at hcall
  obtain ⟨-, huser, hpassword, -⟩ := Call.connection.inj hcall
  constructor
  · intro held hread
    rw [← huser, hread]
    rfl
  · intro held hread
    rw [← hpassword, hread]
    rfl

/-- A user is assigned to the settings after the gateway was built: the search opens its connection
with the new one. -/
example :
    let start : Session := { store := { environment :=
      [("LDAP_AUTHZ_LDAP_URL", "ldap://directory"), ("LDAP_AUTHZ_GROUP_SEARCH_BASE", "ou=groups"),
        ("LDAP_AUTHZ_BIND_DN", "cn=first")] } }
    let steps : List ProcessStep :=
      [.session { action := .create none none {} }, .get, .assign "bind_dn" (.text "cn=second"),
        .session { action := .resolve ⟨"uid=ben", "ben", []⟩ }]
    ((start.proceedAll steps).1.map fun report =>
      match report with
      | .session report => report.calls.filterMap fun c =>
          match c with
          | .connection _ user _ _ _ => user.asText?
          | _ => none
      | _ => []) = [[], [], [], ["cn=second"]] := by
  decide +kernel

end Session

end GrantedRoles
