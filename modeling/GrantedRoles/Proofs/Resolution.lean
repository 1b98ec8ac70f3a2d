import GrantedRoles.Proofs.Conduct
import GrantedRoles.Resolver

/-!
# What a resolution asks, and what it answers

A resolution consults the directory, the legacy hook and the additional hook, in this order. The
first of them that fails ends it: its failure is the outcome as it is, and those after it are not
called. A collaborator that is not there is not called and contributes nothing.
`Resolver.resolve_course` composes the whole from the course of the one search, for any gateway.
Before it asks anybody, a resolution says that it begins; if that is refused it ends there.
-/

set_option autoImplicit false

namespace GrantedRoles

open Log Text

/-! ## Consultations -/

/-- What asking one collaborator comes to: the calls that are made, and the roles or the failure
that it answers with. -/
structure Consultation where
  calls : List Call := []
  answer : Except Failure TextSet := .ok .empty

namespace Consultation

/-- The calls of several consultations, of which the first that fails is the last. -/
def callsMade : List Consultation → List Call
  | [] => []
  | first :: rest =>
      match first.answer with
      | .ok _ => first.calls ++ callsMade rest
      | .error _ => first.calls

/-- The failure that ends several consultations. -/
def firstFailure? : List Consultation → Option Failure
  | [] => none
  | first :: rest =>
      match first.answer with
      | .ok _ => firstFailure? rest
      | .error failure => some failure

/-- The roles of three consultations, or the failure that ends them. -/
def gather (found legacy additional : Consultation) : Except Failure TextSet :=
  found.answer.bind fun g => legacy.answer.bind fun l => additional.answer.bind fun a =>
    .ok ((g.union l).union a)

theorem gather_eq_ok {found legacy additional : Consultation} {g l a : TextSet}
    (hfound : found.answer = .ok g) (hlegacy : legacy.answer = .ok l)
    (hadditional : additional.answer = .ok a) :
    gather found legacy additional = .ok ((g.union l).union a) := by
  rw [gather, hfound, hlegacy, hadditional]
  rfl

/-- What is made of gathered roles is made at the end of the three consultations. -/
theorem map_gather {α : Type} (found legacy additional : Consultation) (f : TextSet → α) :
    (gather found legacy additional).map f
      = found.answer.bind fun g => legacy.answer.bind fun l => additional.answer.bind fun a =>
        .ok (f ((g.union l).union a)) := by
  unfold gather
  cases found.answer with
  | error _ => rfl
  | ok g =>
    cases legacy.answer with
    | error _ => rfl
    | ok l => cases additional.answer <;> rfl

/-- Consultations none of which fails make all their calls. -/
theorem callsMade_of_answered {consulted : List Consultation}
    (h : ∀ one ∈ consulted, ∃ roles, one.answer = .ok roles) :
    callsMade consulted = consulted.flatMap Consultation.calls := by
  induction consulted with
  | nil => rfl
  | cons first rest ih =>
    obtain ⟨roles, hfirst⟩ := h first List.mem_cons_self
    have hrest := ih fun one hone => h one (List.mem_cons_of_mem _ hone)
    rw [callsMade, hfirst, List.flatMap_cons, hrest]

theorem gather_eq_error_iff {found legacy additional : Consultation} {failure : Failure} :
    gather found legacy additional = .error failure ↔
      firstFailure? [found, legacy, additional] = some failure := by
  cases hfound : found.answer with
  | error _ => simp [gather, firstFailure?, hfound, Except.bind]
  | ok g =>
    cases hlegacy : legacy.answer with
    | error _ => simp [gather, firstFailure?, hfound, hlegacy, Except.bind]
    | ok l =>
      cases hadditional : additional.answer <;>
        simp [gather, firstFailure?, hfound, hlegacy, hadditional, Except.bind]

end Consultation

/-- After a consultation the rest of an action runs if there was an answer. -/
theorem Course.consult {β : Type} {scene : Scene} {action : Action TextSet}
    {next : TextSet → Action β} {first : Consultation} {rest : List Consultation}
    {outcome : TextSet → Except Failure β}
    (h : ∃ lines, Course scene action first.answer first.calls lines)
    (hnext : ∀ roles, ∃ lines,
      Course scene (next roles) (outcome roles) (Consultation.callsMade rest) lines) :
    ∃ lines, Course scene (action >>= next) (first.answer.bind outcome)
      (Consultation.callsMade (first :: rest)) lines := by
  obtain ⟨lines, h⟩ := h
  unfold Consultation.callsMade
  cases hanswer : first.answer with
  | error failure =>
    rw [hanswer] at h
    exact ⟨lines, h.bind_error next⟩
  | ok roles =>
    rw [hanswer] at h
    obtain ⟨lines', h'⟩ := hnext roles
    exact ⟨lines ++ lines', h.bind h'⟩

/-! ## Configurations of texts -/

/-- A group search configuration whose parts are texts. -/
structure GroupTexts where
  base : Option String := none
  filter : String := "(member=\x7b0\x7d)"
  roleAttribute : String := "cn"
  scope : Scope := .oneLevel
  rolePrefix : String := "ROLE_"
  upperCase : Bool := true
  defaultRole : Option String := none

namespace GroupTexts

/-- The configuration. -/
def config (texts : GroupTexts) : GroupSearch :=
  { base := texts.base.elim .null .text, filter := .text texts.filter,
    roleAttribute := .text texts.roleAttribute, scope := texts.scope,
    rolePrefix := .text texts.rolePrefix, upperCase := texts.upperCase,
    defaultRole := texts.defaultRole.elim .null .text }

/-- The role of a name found in the directory. -/
def role (texts : GroupTexts) (raw : String) : String :=
  texts.rolePrefix ++ if texts.upperCase then upper raw else raw

/-- The roles of the names found in the directory. -/
def roles (texts : GroupTexts) (found : TextSet) : TextSet :=
  TextSet.ofList (found.toList.map texts.role)

/-- The search for the groups of a user: the user's distinguished name is the first parameter of the
filter and the user's name the second. -/
def query (texts : GroupTexts) (base : String) (user : User) : Query :=
  { base := .text base, template := .text texts.filter,
    params := [.text user.dn, .text user.username], wanted := .text texts.roleAttribute,
    scope := .scope texts.scope }

/-- Roles with the default role, if there is one. -/
def withDefault (texts : GroupTexts) (roles : TextSet) : TextSet :=
  texts.defaultRole.elim roles roles.insert

theorem mem_roles {texts : GroupTexts} {found : TextSet} {r : String} :
    r ∈ texts.roles found ↔ ∃ raw ∈ found, texts.role raw = r := by
  rw [roles, TextSet.mem_ofList, List.mem_map]
  exact Iff.rfl

theorem mem_withDefault {texts : GroupTexts} {roles : TextSet} {r : String} :
    r ∈ texts.withDefault roles ↔ r ∈ roles ∨ texts.defaultRole = some r := by
  unfold withDefault
  cases texts.defaultRole with
  | none => simp
  | some role => simp [eq_comm, or_comm]

theorem searchEnabled_config (texts : GroupTexts) :
    texts.config.searchEnabled = texts.base.isSome := by
  simp only [GroupSearch.searchEnabled, config]
  cases texts.base <;> rfl

theorem query_config {texts : GroupTexts} {base : String} (h : texts.base = some base)
    (user : User) : Resolver.query texts.config user = texts.query base user := by
  simp [Resolver.query, query, config, h]

theorem normalizeAll_config (texts : GroupTexts) (names : List String) :
    Resolver.normalizeAll texts.config names = .ok (names.map texts.role) := by
  induction names with
  | nil => rfl
  | cons raw rest ih =>
    have hraw : texts.config.normalizeText raw = .ok (texts.role raw) := rfl
    rw [Resolver.normalizeAll, hraw, ih]
    rfl

theorem withDefault_config (texts : GroupTexts) (roles : TextSet) :
    RoleSet.withDefault roles texts.config.defaultRole
      = .ok { texts := texts.withDefault roles } := by
  simp only [withDefault, config]
  cases texts.defaultRole <;> rfl

end GroupTexts

/-! ## The three consultations -/

/-- What the group search comes to, if a gateway answers its query like this. -/
def GroupTexts.consultation (texts : GroupTexts) (search : Query → Consultation) (user : User) :
    Consultation :=
  match texts.base with
  | none => {}
  | some base =>
      { calls := (search (texts.query base user)).calls
        answer := (search (texts.query base user)).answer.map texts.roles }

/-- In the scene, asking the gateway comes to this, whatever it logs on the way. -/
def Gateway.Consults (gateway : Gateway) (scene : Scene) (query : Query)
    (asked : Consultation) : Prop :=
  ∃ lines, Course scene (gateway.search query) asked.answer asked.calls lines

/-- What the legacy hook comes to. -/
def Hooks.legacyConsultation (hooks : Hooks) (user : User) : Consultation :=
  match hooks.legacy with
  | none => {}
  | some hook =>
      { calls := [.legacyHook user.dn (user.attributes.map fun entry => (entry.1, entry.2.items))]
        answer := (hook user.dn user.attributes).map (·.getD .empty) }

/-- What the additional hook comes to. -/
def Hooks.additionalConsultation (hooks : Hooks) (user : User) : Consultation :=
  match hooks.additional with
  | none => {}
  | some hook =>
      { calls := [.additionalHook user.dn user.username]
        answer := (hook user).map (·.getD .empty) }

namespace Resolver

variable {scene : Scene} {resolver : Resolver}

/-- A call of the resolver's logger. -/
def noted (level : Level) (event : String) (fields : List (String × Value)) : Note :=
  { logger := .resolver, name := loggerName, level := level, event := .text event,
    fields := fields }

/-- The call with which a resolution begins. -/
def beginning : Note := noted .debug "resolving_authorities" []

/-- A call of the resolver's logger is plain if its fields can be written and logging reads none of
them itself. -/
theorem plain_noted (level : Level) (event : String) {fields : List (String × Value)}
    (h : ∀ entry ∈ fields, entry.1 ∉ interpretedFields ∧ entry.2.isWritable = true) :
    (noted level event fields).Plain :=
  ⟨⟨⟨event, rfl⟩, fun entry hentry => (h entry hentry).1⟩, fun entry hentry => (h entry hentry).2⟩

/-- The resolver's logger takes calls at a level exactly if it takes one without fields. -/
theorem takes_iff_reply_noted {level : Level} (event : String) :
    scene.Takes .resolver loggerName level ↔ scene.reply (noted level event []) = .ok () :=
  Logging.takes_iff_reply _ _ _ event

theorem note_conduct (scene : Scene) (level : Level) (event : String)
    (fields : List (String × Value)) :
    Conduct scene (note level event fields) (scene.reply (noted level event fields)) []
      (scene.remarks [noted level event fields]) :=
  Conduct.log _

/-- A line that is taken only adds to what is logged. -/
theorem note_bind {β : Type} {event : String} {fields : List (String × Value)}
    {next : Action β} {outcome : Except Failure β} {calls : List Call}
    (htaken : scene.reply (noted .debug event fields) = .ok ())
    (hnext : ∃ lines, Course scene next outcome calls lines) :
    ∃ lines, Course scene (note .debug event fields >>= fun _ => next) outcome calls lines := by
  obtain ⟨lines, hnext⟩ := hnext
  have hnote := note_conduct scene .debug event fields
  rw [htaken] at hnote
  exact ⟨_, hnote.course.bind hnext⟩

/-- A hook is called once, and what it answers counts as it is. -/
theorem hook_conduct (c : Call) (answer : Contribution) :
    Conduct scene (do
        Action.call c
        let roles ← Action.ofExcept answer
        pure (roles.getD TextSet.empty) : Action TextSet)
      (answer.map (·.getD .empty)) [c] [] := by
  have hanswer : Conduct scene (do
      let roles ← Action.ofExcept answer
      pure (roles.getD TextSet.empty) : Action TextSet) (answer.map (·.getD .empty)) [] [] := by
    cases answer with
    | error failure => exact (Conduct.ofExcept (.error failure)).bind_error _
    | ok roles => exact (Conduct.ofExcept (.ok roles)).bind (Conduct.pure _)
  exact (Conduct.call c).bind hanswer

theorem groupRoles_course {texts : GroupTexts} {user : User} {search : Query → Consultation}
    (hconfig : resolver.config = texts.config)
    (htakes : scene.Takes .resolver loggerName .debug)
    (hsearch : ∀ base, texts.base = some base →
      resolver.gateway.Consults scene (texts.query base user) (search (texts.query base user))) :
    ∃ lines, Course scene (resolver.groupRoles user) (texts.consultation search user).answer
      (texts.consultation search user).calls lines := by
  simp only [groupRoles, GroupTexts.consultation, hconfig, GroupTexts.searchEnabled_config]
  cases hbase : texts.base with
  | none => exact ⟨[], Course.pure _⟩
  | some base =>
    obtain ⟨lines, hsearch⟩ := hsearch base hbase
    simp only [Option.isSome_some, if_true]
    rw [GroupTexts.query_config hbase]
    -- The configuration is made of texts, so it can be said.
    refine note_bind (Scene.reply_of_plain (plain_noted _ _ ?_) htakes) ?_
    · simp [interpretedFields, recordField, exceptionField, GroupTexts.config, hbase]
    cases hanswer : (search (texts.query base user)).answer with
    | error failure =>
      rw [hanswer] at hsearch
      exact ⟨lines, hsearch.bind_error _⟩
    | ok found =>
      rw [hanswer] at hsearch
      -- What is found is logged and made into roles; neither asks anybody.
      have hroles : ∃ lines, Course scene
          (Action.ofExcept (normalizeAll texts.config found.toList) >>= fun roles =>
            pure (TextSet.ofList roles)) (.ok (texts.roles found)) [] lines := by
        rw [GroupTexts.normalizeAll_config]
        exact ⟨[], (Course.ofExcept _).bind (Course.pure _)⟩
      have hfound : ∀ entry ∈ [("roles", Value.list (found.toList.map .text))],
          entry.1 ∉ interpretedFields ∧ entry.2.isWritable = true := by
        simp [interpretedFields, recordField, exceptionField, Value.isWritable,
          Value.areWritable_iff]
      obtain ⟨lines', hrest⟩ := note_bind
        (Scene.reply_of_plain (plain_noted .debug "group_search_roles" hfound) htakes) hroles
      exact ⟨lines ++ lines', hsearch.bind_silent hrest⟩

theorem legacyRoles_conduct (user : User) :
    Conduct scene (resolver.legacyRoles user)
      (resolver.hooks.legacyConsultation user).answer
      (resolver.hooks.legacyConsultation user).calls [] := by
  unfold legacyRoles Hooks.legacyConsultation
  cases resolver.hooks.legacy with
  | none => exact Conduct.pure _
  | some hook => exact hook_conduct _ _

theorem additionalRoles_conduct (user : User) :
    Conduct scene (resolver.additionalRoles user)
      (resolver.hooks.additionalConsultation user).answer
      (resolver.hooks.additionalConsultation user).calls [] := by
  unfold additionalRoles Hooks.additionalConsultation
  cases resolver.hooks.additional with
  | none => exact Conduct.pure _
  | some hook => exact hook_conduct _ _

/-- The course of a resolution: what its three consultations come to, in their order. -/
theorem resolve_course {texts : GroupTexts} {user : User} (search : Query → Consultation)
    (hconfig : resolver.config = texts.config)
    (htakes : (scene.withUser user.dn user.username).Takes .resolver loggerName .debug)
    (hsearch : ∀ base, texts.base = some base →
      resolver.gateway.Consults (scene.withUser user.dn user.username) (texts.query base user)
        (search (texts.query base user))) :
    ∃ lines, Course scene (resolver.resolve user)
      ((Consultation.gather (texts.consultation search user)
        (resolver.hooks.legacyConsultation user)
        (resolver.hooks.additionalConsultation user)).map fun roles =>
          { texts := texts.withDefault roles })
      (Consultation.callsMade [texts.consultation search user,
        resolver.hooks.legacyConsultation user, resolver.hooks.additionalConsultation user])
      lines := by
  have hend : ∀ g l a : TextSet, ∃ lines, Course (scene.withUser user.dn user.username)
      (Action.ofExcept
        (RoleSet.withDefault ((g.union l).union a) resolver.config.defaultRole))
      (.ok { texts := texts.withDefault ((g.union l).union a) }) (Consultation.callsMade [])
      lines := by
    intro g l a
    rw [hconfig, GroupTexts.withDefault_config]
    exact ⟨[], Course.ofExcept _⟩
  -- The three consultations and the end follow one another as `resolve` binds them.
  obtain ⟨lines, h⟩ := note_bind ((takes_iff_reply_noted "resolving_authorities").1 htakes)
    (Course.consult (groupRoles_course hconfig htakes hsearch) fun g =>
      Course.consult (legacyRoles_conduct user).exists_course fun l =>
        Course.consult (additionalRoles_conduct user).exists_course fun a => hend g l a)
  refine ⟨lines, ?_⟩
  rw [Consultation.map_gather]
  exact Course.withUser h

/-- A resolution that cannot say that it begins ends there, and says nothing else. -/
theorem resolve_refused_conduct (resolver : Resolver) (user : User) {failure : Failure}
    (hrefused : (scene.withUser user.dn user.username).reply beginning = .error failure) :
    Conduct scene (resolver.resolve user) (.error failure) []
      ((scene.withUser user.dn user.username).remarks [beginning]) := by
  have hnote := note_conduct (scene.withUser user.dn user.username) .debug
    "resolving_authorities" []
  change Conduct _ _ (Scene.reply _ beginning) _ _ at hnote
  rw [hrefused] at hnote
  exact Conduct.withUser (hnote.bind_error _)

/-- Such a resolution asks nobody. -/
theorem resolve_refused (resolver : Resolver) (user : User) {failure : Failure}
    (hrefused : (scene.withUser user.dn user.username).reply beginning = .error failure) :
    ∃ lines, Course scene (resolver.resolve user) (.error failure) [] lines :=
  (resolve_refused_conduct resolver user hrefused).exists_course

end Resolver

/-! ## Outcomes -/

/-- What follows an action decides the outcome with what the action returns. -/
theorem Action.outcome_bind_congr {α β : Type} (action : Action α) {next next' : α → Action β}
    (h : ∀ a ambient, ((next a).run ambient).1 = ((next' a).run ambient).1) (ambient : Ambient) :
    ((action >>= next).run ambient).1 = ((action >>= next').run ambient).1 := by
  rcases hrun : action.run ambient with ⟨failure | a, after⟩
  · rw [Action.run_bind_of_error hrun, Action.run_bind_of_error hrun]
  · rw [Action.run_bind_of_ok hrun, Action.run_bind_of_ok hrun]
    exact h a after

namespace Resolver

/-- What a resolution does once the group search has found something. -/
def finish (resolver : Resolver) (user : User) (found : TextSet) : Action RoleSet := do
  let legacy ← resolver.legacyRoles user
  let additional ← resolver.additionalRoles user
  Action.ofExcept
    (RoleSet.withDefault ((found.union legacy).union additional) resolver.config.defaultRole)

/-- Then only hooks are asked, and what they answer depends on no ambient. -/
theorem finish_outcome (resolver : Resolver) (user : User) (found : TextSet) (ambient : Ambient) :
    ((resolver.finish user found).run ambient).1
      = (resolver.hooks.legacyConsultation user).answer.bind fun legacy =>
        (resolver.hooks.additionalConsultation user).answer.bind fun additional =>
          RoleSet.withDefault ((found.union legacy).union additional)
            resolver.config.defaultRole := by
  have hend (roles : Except Failure RoleSet) : ∃ lines,
      Course ambient.scene (Action.ofExcept roles) roles (Consultation.callsMade []) lines :=
    ⟨[], Course.ofExcept roles⟩
  have hlegacy : ∃ lines, Course ambient.scene (resolver.legacyRoles user)
      (resolver.hooks.legacyConsultation user).answer
      (resolver.hooks.legacyConsultation user).calls lines :=
    (legacyRoles_conduct user).exists_course
  obtain ⟨lines, hcourse⟩ := Course.consult hlegacy fun legacy =>
    Course.consult (resolver.additionalRoles_conduct user).exists_course fun additional =>
      hend (RoleSet.withDefault ((found.union legacy).union additional)
        resolver.config.defaultRole)
  obtain ⟨after, hrun, -⟩ := hcourse.exists_run
  exact congrArg Prod.fst hrun

/-- Two resolutions over one gateway with one configuration end alike if their users have the same
names and their hooks contribute the same. -/
theorem resolve_outcome_congr (gateway : Gateway) (config : GroupSearch) {hooks hooks' : Hooks}
    {user user' : User} (hdn : user.dn = user'.dn) (husername : user.username = user'.username)
    (hlegacy : (hooks.legacyConsultation user).answer = (hooks'.legacyConsultation user').answer)
    (hadditional : (hooks.additionalConsultation user).answer
      = (hooks'.additionalConsultation user').answer) (ambient : Ambient) :
    ((resolve ⟨gateway, config, hooks⟩ user).run ambient).1
      = ((resolve ⟨gateway, config, hooks'⟩ user').run ambient).1 := by
  obtain ⟨dn, username, attributes⟩ := user
  obtain ⟨dn', username', attributes'⟩ := user'
  obtain rfl : dn = dn' := hdn
  obtain rfl : username = username' := husername
  -- The two resolutions search groups alike and finish alike.
  apply Action.outcome_bind_congr (note .debug "resolving_authorities" [])
  intro _ between
  apply Action.outcome_bind_congr (groupRoles ⟨gateway, config, hooks⟩ ⟨dn, username, attributes⟩)
  intro found after
  change ((finish ⟨gateway, config, hooks⟩ ⟨dn, username, attributes⟩ found).run after).1
    = ((finish ⟨gateway, config, hooks'⟩ ⟨dn, username, attributes'⟩ found).run after).1
  rw [finish_outcome, finish_outcome]
  change (hooks.legacyConsultation _).answer.bind _ = (hooks'.legacyConsultation _).answer.bind _
  rw [hlegacy]
  change _ = Except.bind _ fun _ => (hooks'.additionalConsultation _).answer.bind _
  rw [← hadditional]

end Resolver

/-! ## Gateways that only answer -/

/-- A gateway that gives every query its answer, and on which the call is seen. -/
def Gateway.answering (rootDn : Value) (answer : Query → Except Failure TextSet) : Gateway where
  rootDn := rootDn
  search query := do
    Action.call (.gateway query)
    Action.ofExcept (answer query)

theorem Gateway.consults_answering {scene : Scene} (rootDn : Value)
    (answer : Query → Except Failure TextSet) (query : Query) :
    (Gateway.answering rootDn answer).Consults scene query ⟨[.gateway query], answer query⟩ :=
  ⟨_, (Course.call _).bind (Course.ofExcept _)⟩

/-- The gateway in memory gives every query the same answer. -/
theorem MemoryGateway.toGateway_eq (memory : MemoryGateway) :
    memory.toGateway = Gateway.answering memory.rootDn fun _ =>
      memory.failure.elim (.ok (TextSet.ofList memory.values)) .error := by
  unfold toGateway Gateway.answering
  cases memory.failure <;> rfl

end GrantedRoles
