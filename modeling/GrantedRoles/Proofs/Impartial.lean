import GrantedRoles.Proofs.Directory.Search
import GrantedRoles.Proofs.Populating

/-!
# Actions to which logging does not matter

Two ambients stand beside each other if they differ in logging only, and every logger takes calls in
both. An action is impartial if it ends alike in both, makes the same calls, and leaves both scenes
as they were. An action with a known conduct is impartial if its outcome does not depend on which
scene it runs in, of those in which loggers take calls (`Action.Impartial.of_conduct`); an unknown
one, such as a search over any gateway, has to be impartial itself. So a resolution over an
impartial gateway is impartial (`Resolver.impartial_resolve`), and the gateways in memory and to a
directory are (`GatewayChoice.impartial_toGateway`).
-/

set_option autoImplicit false

namespace GrantedRoles

open Log

/-- The ambients differ in logging only, and every logger takes calls in both. -/
structure Ambient.Beside (ambient other : Ambient) : Prop where
  context : ambient.context = other.context
  calls : ambient.calls = other.calls
  here : ambient.scene.Hears
  there : other.scene.Hears

theorem Ambient.Shows.trans {ambient between : Ambient} {scene : Scene}
    (h : ambient.Shows between.scene) (h' : between.Shows scene) : ambient.Shows scene :=
  ⟨h.context.trans h'.context, h.logging.trans h'.logging⟩

/-- The action ends alike in ambients that stand beside each other, with the same calls, and leaves
their scenes as they were. -/
structure Action.Alike {α : Type} (action : Action α) (ambient other : Ambient) : Prop where
  outcome : (action.run ambient).1 = (action.run other).1
  calls : (action.run ambient).2.calls = (action.run other).2.calls
  here : (action.run ambient).2.Shows ambient.scene
  there : (action.run other).2.Shows other.scene

/-- Logging does not matter to the action. -/
def Action.Impartial {α : Type} (action : Action α) : Prop :=
  ∀ ambient other : Ambient, ambient.Beside other → action.Alike ambient other

namespace Action

variable {α β : Type}

/-- What is left stands beside each other again. -/
theorem Alike.beside {action : Action α} {ambient other : Ambient}
    (h : action.Alike ambient other) (hbeside : ambient.Beside other) :
    (action.run ambient).2.Beside (action.run other).2 where
  context := h.here.context.trans (hbeside.context.trans h.there.context.symm)
  calls := h.calls
  here := hbeside.here.of_shows h.here
  there := hbeside.there.of_shows h.there

/-- The outcome of an action, also if the action fails. -/
def attempt (action : Action α) : Action (Except Failure α) := fun ambient =>
  (.ok (action ambient).1, (action ambient).2)

namespace Impartial

/-- An action is impartial if in all scenes it makes the same calls, and in those in which loggers
take calls it has the same outcome. -/
theorem of_conduct {action : Action α} {outcome : Scene → Except Failure α} {calls : List Call}
    {remarks : Scene → List Remark}
    (h : ∀ scene, Conduct scene action (outcome scene) calls (remarks scene))
    (hsame : ∀ scene other : Scene, scene.Hears → other.Hears → outcome scene = outcome other) :
    action.Impartial := by
  intro ambient other hbeside
  obtain ⟨after, hrun, hshows, hcalls, -⟩ := (h ambient.scene).course ambient ambient.shows_scene
  obtain ⟨after', hrun', hshows', hcalls', -⟩ := (h other.scene).course other other.shows_scene
  refine ⟨?_, ?_, ?_, ?_⟩
  · rw [hrun, hrun']
    exact hsame _ _ hbeside.here hbeside.there
  · rw [hrun, hrun']
    exact hcalls.trans ((congrArg (· ++ calls) hbeside.calls).trans hcalls'.symm)
  · rw [hrun]
    exact hshows
  · rw [hrun']
    exact hshows'

theorem ofExcept (outcome : Except Failure α) : (Action.ofExcept outcome).Impartial :=
  of_conduct (fun _ => Conduct.ofExcept outcome) fun _ _ _ _ => rfl

protected theorem pure (a : α) : (pure a : Action α).Impartial := ofExcept (.ok a)

/-- What follows an action has to be impartial only for what the action can return. -/
theorem bind_returned {action : Action α} {next : α → Action β} (h : action.Impartial)
    (hnext : ∀ ambient a, (action.run ambient).1 = .ok a → (next a).Impartial) :
    (action >>= next).Impartial := by
  intro ambient other hbeside
  have hfirst := h ambient other hbeside
  have hbetween := hfirst.beside hbeside
  obtain ⟨houtcome, hcalls, hhere, hthere⟩ := hfirst
  -- Either both fail with one failure, or both go on with one value.
  rcases hstart : action.run ambient with ⟨outcome, after⟩
  rcases hstart' : action.run other with ⟨outcome', after'⟩
  rw [hstart, hstart'] at houtcome hcalls hbetween
  rw [hstart] at hhere
  rw [hstart'] at hthere
  change outcome = outcome' at houtcome
  subst houtcome
  cases outcome with
  | error failure =>
    have hends := run_bind_of_error hstart next
    have hends' := run_bind_of_error hstart' next
    constructor <;> simp only [hends, hends']
    · exact hcalls
    · exact hhere
    · exact hthere
  | ok a =>
    have hrest := hnext ambient a (congrArg Prod.fst hstart) after after' hbetween
    have hgoes := run_bind_of_ok hstart next
    have hgoes' := run_bind_of_ok hstart' next
    constructor <;> simp only [hgoes, hgoes']
    · exact hrest.outcome
    · exact hrest.calls
    · exact hrest.here.trans hhere
    · exact hrest.there.trans hthere

theorem bind {action : Action α} {next : α → Action β} (h : action.Impartial)
    (hnext : ∀ a, (next a).Impartial) : (action >>= next).Impartial :=
  h.bind_returned fun _ a _ => hnext a

/-- A user is bound for the length of an action, and the scene is as before after it. -/
theorem withUser {action : Action α} {dn username : String} (h : action.Impartial) :
    (Action.withUser dn username action).Impartial := by
  have hleft (start : Ambient)
      (hshows : (action.run { start with
        context := (start.context.enter (.text dn) (.text username)).1 }).2.Shows
          (start.scene.withUser dn username)) :
      ((Action.withUser dn username action).run start).2.Shows start.scene := by
    refine ⟨?_, hshows.logging⟩
    have hcontext := congrArg (Context.leave · (start.context.enter (.text dn) (.text username)).2)
      hshows.context
    exact hcontext.trans (Context.leave_enter _ _ _)
  intro ambient other hbeside
  have hwithin := h
    { ambient with context := (ambient.context.enter (.text dn) (.text username)).1 }
    { other with context := (other.context.enter (.text dn) (.text username)).1 }
    ⟨by rw [hbeside.context], hbeside.calls, hbeside.here.withUser dn username,
      hbeside.there.withUser dn username⟩
  exact ⟨hwithin.outcome, hwithin.calls, hleft ambient hwithin.here, hleft other hwithin.there⟩

theorem attempt {action : Action α} (h : action.Impartial) : action.attempt.Impartial := by
  intro ambient other hbeside
  obtain ⟨houtcome, hcalls, hhere, hthere⟩ := h ambient other hbeside
  exact ⟨congrArg Except.ok houtcome, hcalls, hhere, hthere⟩

end Impartial

end Action

/-! ## Gateways -/

/-- Searching is impartial below every base that can be written. -/
def Gateway.Impartial (gateway : Gateway) : Prop :=
  ∀ query : Query, query.base.isWritable = true → (gateway.search query).Impartial

theorem Gateway.impartial_answering (rootDn : Value) (answer : Query → Except Failure TextSet) :
    (Gateway.answering rootDn answer).Impartial :=
  fun query _ => .of_conduct (fun _ => (Conduct.call (.gateway query)).bind
    (Conduct.ofExcept (answer query))) fun _ _ _ _ => rfl

section Hearing

variable {α : Type} {scene : Scene}

/-- Where loggers take calls, plain ones settle nothing. -/
theorem Scene.Hears.settle_of_plain (h : scene.Hears) {notes : List Note}
    (hplain : ∀ note ∈ notes, note.Plain) (outcome : Except Failure α) :
    settle scene notes outcome = outcome :=
  settle_of_taken (fun note hnote => h.reply_of_plain (hplain note hnote)) outcome

/-- There it does not matter either whether a call is refused for a value that the failure quotes.
-/
theorem Scene.Hears.settle_quoting (h : scene.Hears) {note : Note} (hnote : note.Uninterpreted)
    {values : List Value}
    (hfields : ∀ entry ∈ note.fields, entry.2.isWritable = true ∨ entry.2 ∈ values)
    (failure : Failure) :
    settle scene [note] (.error (.quoting values failure) : Except Failure α)
      = .error (.quoting values failure) := by
  by_cases hwritable : values.all Value.isWritable = true
  · refine settle_of_taken ?_ _
    intro other hother
    obtain rfl := List.mem_singleton.1 hother
    refine h.reply_of_plain ⟨hnote, fun entry hentry => ?_⟩
    exact (hfields entry hentry).elim id (List.all_eq_true.1 hwritable _)
  · rw [settle_singleton, Failure.quoting, if_neg hwritable]
    rcases h.reply_of_uninterpreted hnote with htaken | hrefused
    · rw [htaken]
      rfl
    · rw [hrefused]
      rfl

end Hearing

namespace DirectoryGateway

variable {scene : Scene}

/-- A warning of what the directory reports about a base that can be written is plain. -/
theorem plain_of_mem_reports {event : String} {base : Value} (hbase : base.isWritable = true)
    (more : List (String × Value))
    (hmore : ∀ entry ∈ more, entry.1 ∉ interpretedFields ∧ entry.2.isWritable = true)
    (failure : Option Failure) :
    ∀ note ∈ reports event (("base", base) :: more) failure, note.Plain := by
  intro note hnote
  unfold reports at hnote
  split at hnote
  · obtain rfl := List.mem_singleton.1 hnote
    refine plain_warning _ ?_
    rw [List.cons_append, List.forall_mem_cons, List.forall_mem_append, List.forall_mem_singleton]
    refine ⟨⟨?_, hbase⟩, hmore, ?_, rfl⟩ <;> simp [interpretedFields, recordField, exceptionField]
  · cases hnote

/-- Where loggers take calls, an open connection comes to what it comes to without its warnings. -/
theorem settled_of_hears (h : scene.Hears) (connection : Connection) {base : Value}
    (hbase : base.isWritable = true) (filter : String) (query : Query) :
    (finding connection base filter query).settled scene
      = (finding connection base filter query).outcome := by
  unfold finding
  cases scopeOf query.scope with
  | error failure => rfl
  | ok s =>
    cases connection.searchFailure with
    | some failure =>
      cases failure with
      | directory fault =>
        exact h.settle_of_plain (plain_of_mem_reports hbase [("filter", .text filter)]
          (List.forall_mem_singleton.2 ⟨(by decide : "filter" ∉ interpretedFields), rfl⟩)
            (some (.directory fault))) _
      | _ => rfl
    | none =>
      simp only [answered]
      cases Connection.verdict connection.result with
      | error failure => rfl
      | ok verdict =>
        cases verdict with
        | success => rfl
        | unknown =>
          refine h.settle_quoting ⟨⟨_, rfl⟩, ?_⟩ ?_ _
          · simp [warning, interpretedFields, recordField, exceptionField]
          · simp [warning]
        | refused code description =>
          refine h.settle_quoting ⟨⟨_, rfl⟩, ?_⟩ ?_ _
          · simp [warning, interpretedFields, recordField, exceptionField]
          · simp [warning]

/-- There a search ends as if nothing were logged. -/
theorem searchOutcome_of_hears (h : scene.Hears) {gateway : DirectoryGateway}
    (hroot : gateway.rootDn.isWritable = true) (connection : Connection) {query : Query}
    (hbase : query.base.isWritable = true) :
    searchOutcome scene gateway connection query
      = (gateway.prepare query).bind fun (filter, base) =>
          (refusal? connection.connectFailure).bind fun _ =>
            (unreleased? connection.unbindFailure).bind fun _ =>
              (finding connection base filter query).outcome := by
  obtain ⟨absolute, habsolute, hwritable⟩ := exists_absoluteBase hroot hbase
  unfold searchOutcome prepare
  cases SearchFilter.render query.template query.params with
  | error failure => rfl
  | ok filter =>
    rw [habsolute]
    change (connected scene absolute connection.connectFailure).bind (fun _ =>
        (released scene absolute connection.unbindFailure).bind fun _ =>
          (finding connection absolute filter query).settled scene)
      = (refusal? connection.connectFailure).bind fun _ =>
          (unreleased? connection.unbindFailure).bind fun _ =>
            (finding connection absolute filter query).outcome
    rw [connected, released, h.settle_of_plain (plain_of_mem_reports hwritable [] (by simp) _),
      h.settle_of_plain (plain_of_mem_reports hwritable [] (by simp) _),
      settled_of_hears h connection hwritable]

theorem impartial_withConnection {gateway : DirectoryGateway}
    (hroot : gateway.rootDn.isWritable = true) (connection : Connection) :
    (gateway.withConnection connection).Impartial := by
  intro query hbase
  apply Action.Impartial.of_conduct fun _ => gateway.search_conduct connection query
  intro scene other hscene hother
  rw [searchOutcome_of_hears hscene hroot connection hbase,
    searchOutcome_of_hears hother hroot connection hbase]

end DirectoryGateway

theorem GatewayChoice.impartial_toGateway {choice : GatewayChoice}
    (hroot : choice.rootDn.isWritable = true) (connection : Connection) :
    (choice.toGateway connection).Impartial := by
  cases choice with
  | directory gateway => exact DirectoryGateway.impartial_withConnection hroot connection
  | memory gateway =>
    change gateway.toGateway.Impartial
    rw [gateway.toGateway_eq]
    exact Gateway.impartial_answering _ _

/-! ## Resolutions -/

namespace Resolver

theorem impartial_note (level : Level) (event : String) {fields : List (String × Value)}
    (h : ∀ entry ∈ fields, entry.1 ∉ interpretedFields ∧ entry.2.isWritable = true) :
    (note level event fields).Impartial := by
  apply Action.Impartial.of_conduct fun scene => note_conduct scene level event fields
  intro scene other hscene hother
  rw [hscene.reply_of_plain (plain_noted level event h),
    hother.reply_of_plain (plain_noted level event h)]

/-- Making a resolver says at most that its base is empty. -/
theorem impartial_create {gateway : Gateway} (hroot : gateway.rootDn.isWritable = true)
    (config : GroupSearch) (hooks : Hooks) : (create (some gateway) config hooks).Impartial := by
  apply Action.Impartial.of_conduct fun scene =>
    Populator.resolver_conduct scene gateway config hooks
  intro scene other hscene hother
  have hplain := Populator.plain_of_mem_emptyBaseNotes hroot config
  rw [hscene.settle_of_plain hplain, hother.settle_of_plain hplain]

variable {resolver : Resolver}

/-- Searching groups is impartial: lines are said around a search of the gateway. -/
theorem impartial_groupRoles (h : resolver.gateway.Impartial)
    (hfilter : resolver.config.filter.isWritable = true)
    (hbase : resolver.config.base.isWritable = true) (user : User) :
    (resolver.groupRoles user).Impartial := by
  unfold groupRoles
  cases hsearches : resolver.config.searchEnabled with
  | false =>
    simp only [hsearches, Bool.false_eq_true, if_false]
    exact .pure _
  | true =>
    simp only [hsearches, if_true]
    apply (impartial_note .debug "searching_group_roles" _).bind
    · intro _
      apply (h _ hbase).bind
      intro found
      apply (impartial_note .debug "group_search_roles" _).bind
      · intro _
        exact (Action.Impartial.ofExcept _).bind fun _ => .pure _
      · simp [interpretedFields, recordField, exceptionField, Value.isWritable,
          Value.areWritable_iff]
    · simp [interpretedFields, recordField, exceptionField, hfilter, hbase]

/-- A resolution over an impartial gateway is impartial, if it can be said which groups it
searches. -/
theorem impartial_resolve (h : resolver.gateway.Impartial)
    (hfilter : resolver.config.filter.isWritable = true)
    (hbase : resolver.config.base.isWritable = true) (user : User) :
    (resolver.resolve user).Impartial := by
  apply Action.Impartial.withUser
  apply (impartial_note .debug "resolving_authorities" (by simp)).bind
  intro _
  apply (impartial_groupRoles h hfilter hbase user).bind
  intro found
  -- The hooks answer alike in all scenes.
  apply (Action.Impartial.of_conduct (fun _ => legacyRoles_conduct user) fun _ _ _ _ => rfl).bind
  intro legacy
  apply (Action.Impartial.of_conduct (fun _ => additionalRoles_conduct user)
    fun _ _ _ _ => rfl).bind
  intro additional
  exact .ofExcept _

/-- Resolves one user after the other, whether or not a resolution fails. -/
def resolveAll (resolver : Resolver) : List User → Action (List (Except Failure RoleSet))
  | [] => pure []
  | user :: rest => do
      let outcome ← (resolver.resolve user).attempt
      let outcomes ← resolver.resolveAll rest
      pure (outcome :: outcomes)

/-- Resolving users one after the other is impartial, by induction on the users. -/
theorem impartial_resolveAll (h : resolver.gateway.Impartial)
    (hfilter : resolver.config.filter.isWritable = true)
    (hbase : resolver.config.base.isWritable = true) (users : List User) :
    (resolver.resolveAll users).Impartial := by
  induction users with
  | nil => exact .pure _
  | cons user rest ih =>
    exact (impartial_resolve h hfilter hbase user).attempt.bind fun _ => ih.bind fun _ => .pure _

/-- There is an outcome for each user. -/
theorem exists_resolveAll_eq_ok (resolver : Resolver) (users : List User) (ambient : Ambient) :
    ∃ outcomes, ((resolver.resolveAll users).run ambient).1 = .ok outcomes ∧
      outcomes.length = users.length := by
  induction users generalizing ambient with
  | nil => exact ⟨[], rfl, rfl⟩
  | cons user rest ih =>
    rcases hrun : (resolver.resolve user).run ambient with ⟨outcome, between⟩
    have hfirst : (resolver.resolve user).attempt.run ambient = (.ok outcome, between) :=
      congrArg (fun ended => (Except.ok ended.1, ended.2)) hrun
    obtain ⟨outcomes, hrest, hlength⟩ := ih between
    refine ⟨outcome :: outcomes, ?_, congrArg Nat.succ hlength⟩
    rcases hruns : (resolver.resolveAll rest).run between with ⟨others, after⟩
    rw [hruns] at hrest
    obtain rfl : others = .ok outcomes := hrest
    rw [resolveAll, Action.run_bind_of_ok hfirst, Action.run_bind_of_ok hruns]
    rfl

end Resolver

end GrantedRoles
