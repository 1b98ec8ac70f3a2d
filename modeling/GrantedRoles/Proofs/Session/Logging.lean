import GrantedRoles.Proofs.Log.History
import GrantedRoles.Proofs.Remarks
import GrantedRoles.Proofs.Session.Steps

/-!
# Logging over a whole session

What the steps of a session do to logging is a history: a step may configure it, make a logger anew
or use one (`Session.prepares`), and then it says something (`Session.said`). `logging_discipline`
says of every run which threshold all loggers have, which service name each logger shows, and which
lines a step writes.
-/

set_option autoImplicit false

namespace GrantedRoles

open Log

/-! ## Members that adjust loggers -/

namespace Log

namespace Member

/-- The members that change the threshold or the handlers of one logger. -/
def adjusting : List Member := [setThreshold, attach, detach]

/-- The names of these members. -/
def adjustingNames : List String := ["setLevel", "addHandler", "removeHandler"]

theorem mem_adjustingNames {configured : Bool} {name : String} {member : Member}
    (h : ofName? configured name = some member) (hmember : member ∈ adjusting) :
    name ∈ adjustingNames := by
  unfold ofName? at h
  repeat' split at h
  all_goals try (cases h; simp [adjusting] at hmember)
  -- What is left is in the table of configured loggers, or is one of the early notes.
  · obtain ⟨before, rest, hsplit, -⟩ := List.lookup_eq_some_iff.1 h
    have hlisted : (name, member) ∈ configuredMembers := by
      rw [hsplit]
      exact List.mem_append_right _ List.mem_cons_self
    simp only [adjusting, List.mem_cons, List.not_mem_nil, or_false] at hmember
    rcases hmember with rfl | rfl | rfl <;> simp [configuredMembers] at hlisted <;>
      simp [adjustingNames, hlisted]
  · obtain ⟨level, -, rfl⟩ := Option.map_eq_some_iff.1 h
    simp [adjusting] at hmember

end Member

/-- A call comes to a line, or to nothing. -/
def Effect.IsSpoken : Effect → Prop
  | .nothing => True
  | .line _ _ _ => True
  | _ => False

/-- What other members are asked for is at most a line. -/
theorem Member.isSpoken_of_request {configured : Bool} {member : Option Member} {event : Value}
    {fields : Assoc Value} {effect : Effect}
    (hmember : ∀ one, member = some one → one ∉ adjusting)
    (h : request configured member event fields = .ok effect) : effect.IsSpoken := by
  unfold request at h
  split at h
  all_goals try cases h
  · split at h <;> cases h
    trivial
  · unfold requestAt at h
    repeat' split at h
    all_goals cases h
    all_goals trivial
  · unfold requestRelay at h
    repeat' split at h
    all_goals cases h
    all_goals trivial
  · split at h <;> cases h
    trivial
  · split at h <;> cases h
    trivial
  · next other _ _ _ _ _ =>
    split at h
    · have hother := hmember other rfl
      unfold requestPlain at h
      repeat' split at h
      all_goals try cases h
      -- Members that adjust a logger are excluded; the others come to a line or to nothing.
      all_goals trivial
    · cases h

/-- What configuring does to logging. A level that is no text changes nothing; one that is refused
counts as the initial one if no level was configured before. -/
def Logging.configuring (state : Logging) (service level : Value) : History :=
  match level.asText? with
  | none => []
  | some text =>
      match Log.threshold text, state.threshold with
      | .ok severity, _ => [.leveled severity, .labelled service]
      | .error _, some _ => [.labelled service]
      | .error _, none => [.leveled initialThreshold]

theorem Logging.configure_snd (state : Logging) (service level : Value) :
    (state.configure service level).2 = state.afterAll (state.configuring service level) := by
  obtain ⟨threshold, current, kept, thresholds, attached⟩ := state
  unfold configure configuring
  cases level.asText? with
  | none => rfl
  | some text =>
    cases threshold with
    | some severity =>
      dsimp only
      cases Log.threshold text <;> rfl
    | none =>
      dsimp only
      cases Log.threshold text <;> rfl

end Log

/-- An action asks no logger for a member that changes its threshold or its handlers. -/
def SessionAction.LeavesLoggers : SessionAction → Prop
  | .log _ method _ _ => method ∉ Member.adjustingNames
  | _ => True

namespace Session

/-! ## What an action does to logging -/

/-- An action that finds logging ready says the remarks: their lines are logged, and their loggers
are used. -/
structure Logs {α : Type} (action : Action α) (ambient : Ambient) (ready : Logging)
    (remarks : List Remark) : Prop where
  lines : (action.run ambient).2.lines = ambient.lines ++ remarks.filterMap ready.written
  logging : (action.run ambient).2.logging = ready.touchAll remarks

theorem Logs.of_remarks {α : Type} {action : Action α} {ambient : Ambient} {remarks : List Remark}
    (h : Remarks ambient.scene action remarks) : Logs action ambient ambient.logging remarks := by
  obtain ⟨outcome, calls, h⟩ := h
  obtain ⟨after, hrun, -, -, hlines⟩ := h.course ambient ambient.shows_scene
  refine ⟨?_, h.uses ambient ambient.shows_scene⟩
  rw [hrun]
  exact hlines

/-- What creating a populator says: nothing if logging cannot be configured. -/
def creationNotes (state : Logging) (settings : Settings) (supplied : Option GatewayChoice) :
    List Note :=
  match (state.configure (settings.get .serviceName) (settings.get .logLevel)).1 with
  | .ok _ => Populator.wiringNotes settings supplied
  | .error _ => []

theorem create_logs (settings : Settings) (supplied : Option GatewayChoice) (hooks : Hooks)
    (ambient : Ambient) :
    Logs (Populator.create settings supplied hooks) ambient
      (ambient.logging.configure (settings.get .serviceName) (settings.get .logLevel)).2
      (ambient.scene.remarks (creationNotes ambient.logging settings supplied)) := by
  have hrun := Populator.create_run_eq settings supplied hooks ambient
  unfold creationNotes
  cases hconfigured : (ambient.logging.configure (settings.get .serviceName)
      (settings.get .logLevel)).1 with
  | error failure =>
    simp only [hconfigured] at hrun
    refine ⟨?_, ?_⟩
    · rw [hrun]
      simp [Scene.remarks]
    · rw [hrun]
      rfl
  | ok _ =>
    simp only [hconfigured] at hrun
    have hwire : Logs (Populator.wire settings supplied hooks) _ _ _ :=
      Logs.of_remarks (Remarks.of_conduct (Populator.wire_conduct
        (Ambient.scene { ambient with logging := (ambient.logging.configure
          (settings.get .serviceName) (settings.get .logLevel)).2 }) settings supplied hooks))
    refine ⟨?_, ?_⟩
    · rw [hrun, hwire.lines]
      rfl
    · rw [hrun, hwire.logging]
      rfl

/-! ## Asking a logger -/

/-- The name of the logger that a handle asks for. It does not matter without a configuration. -/
def askedName (session : Session) (asked : Value) : Except Failure String :=
  if session.logging.isConfigured then nameOf asked else .ok ""

/-- What asking a logger does before it says anything: it is used. -/
def askedUses (session : Session) (handle : String) (asked : Value) (method : String)
    (fields : Assoc Value) : History :=
  match session.askedName asked with
  | .ok _ =>
      if Member.isUse (Member.ofName? session.logging.isConfigured method) fields then
        [.used (.handle handle)]
      else []
  | .error _ => []

/-- The call that an answer comes to, if it comes to one. -/
def answeredNotes (logger : Logger) (name : String) : Except Failure Effect → List Note
  | .ok (.line level event fields) => [{ logger, name, level, event, fields }]
  | _ => []

/-- The call that asking a logger comes to, if it comes to one. -/
def askedNotes (session : Session) (handle : String) (asked : Value) (method : String)
    (event : Value) (fields : Assoc Value) : List Note :=
  match session.askedName asked with
  | .ok name =>
      answeredNotes (.handle handle) name
        (Member.request session.logging.isConfigured
          (Member.ofName? session.logging.isConfigured method) event fields)
  | .error _ => []

theorem produce_remarks (scene : Scene) (logger : Logger) (name : String)
    {answer : Except Failure Effect} (h : ∀ effect, answer = .ok effect → effect.IsSpoken) :
    Remarks scene (Action.ofExcept answer >>= produce logger name)
      (scene.remarks (answeredNotes logger name answer)) := by
  cases answer with
  | error failure => exact Remarks.of_conduct ((Conduct.ofExcept (.error failure)).bind_error _)
  | ok effect =>
    refine Remarks.bind_ok (Conduct.ofExcept (.ok effect)) ?_
    cases effect with
    | nothing => exact Remarks.of_conduct (Conduct.pure ())
    | line level event fields => exact Remarks.of_conduct (Conduct.log _)
    | setThreshold severity => exact absurd (h _ rfl) id
    | attach handler => exact absurd (h _ rfl) id
    | detach handler => exact absurd (h _ rfl) id

/-- Asking a logger for a name that it can have uses it, and then performs what it answers. -/
theorem logThrough_run {session : Session} {asked : Value} {name : String}
    (hname : session.askedName asked = .ok name) (handle method : String) (event : Value)
    (fields : Assoc Value) :
    (session.logThrough handle asked method event fields).run session.ambient
      = (Action.ofExcept (Member.request session.logging.isConfigured
          (Member.ofName? session.logging.isConfigured method) event fields) >>=
        produce (.handle handle) name).run
          { session.ambient with
            logging := session.logging.afterAll
              (session.askedUses handle asked method fields) } := by
  have huses : session.askedUses handle asked method fields
      = if Member.isUse (Member.ofName? session.logging.isConfigured method) fields then
          [.used (.handle handle)]
        else [] := by
    rw [askedUses, hname]
  rw [huses]
  simp only [logThrough]
  unfold askedName at hname
  rw [hname]
  split <;> rfl

/-- Asking a logger uses it, if at all, before anything is said. -/
theorem logThrough_logs (session : Session) (handle : String) (asked : Value) {method : String}
    (event : Value) (fields : Assoc Value) (hmethod : method ∉ Member.adjustingNames) :
    Logs (session.logThrough handle asked method event fields) session.ambient
      (session.logging.afterAll (session.askedUses handle asked method fields))
      (session.ambient.scene.remarks (session.askedNotes handle asked method event fields)) := by
  have hspoken : ∀ effect, Member.request session.logging.isConfigured
      (Member.ofName? session.logging.isConfigured method) event fields = .ok effect →
      effect.IsSpoken := by
    intro effect
    refine Member.isSpoken_of_request ?_
    intro member hmember hadjusts
    exact hmethod (Member.mem_adjustingNames hmember hadjusts)
  cases hname : session.askedName asked with
  | error failure =>
    have hrun : (session.logThrough handle asked method event fields).run session.ambient
        = (.error failure, session.ambient) := by
      simp only [logThrough]
      unfold askedName at hname
      rw [hname]
      rfl
    unfold askedUses askedNotes
    rw [hname]
    exact ⟨by rw [hrun]; simp [Scene.remarks], by rw [hrun]; rfl⟩
  | ok name =>
    have hrun := logThrough_run hname handle method event fields
    -- The scene of what is said is the one after the use: the logger may be pinned by it.
    have hproduced := Logs.of_remarks (produce_remarks (Ambient.scene { session.ambient with
      logging := session.logging.afterAll (session.askedUses handle asked method fields) })
      (.handle handle) name hspoken)
    have hnotes : session.askedNotes handle asked method event fields
        = answeredNotes (.handle handle) name (Member.request session.logging.isConfigured
            (Member.ofName? session.logging.isConfigured method) event fields) := by
      rw [askedNotes, hname]
    rw [hnotes]
    exact ⟨by rw [hrun, hproduced.lines]; rfl, by rw [hrun, hproduced.logging]; rfl⟩

/-- The settings and the gateway, if one is supplied, with which a populator is created, unless the
creation is refused before anything happens. -/
def accepted? (session : Session) (arguments : Option (Assoc Value)) (offer : Option GatewayOffer) :
    Option (Settings × Option GatewayChoice) :=
  match session.settingsFor arguments, offer.mapM GatewayOffer.accept with
  | .ok settings, .ok supplied => some (settings, supplied)
  | _, _ => none

theorem accepted?_eq_some_iff {session : Session} {arguments : Option (Assoc Value)}
    {offer : Option GatewayOffer} {settings : Settings} {supplied : Option GatewayChoice} :
    session.accepted? arguments offer = some (settings, supplied) ↔
      session.settingsFor arguments = .ok settings ∧
        offer.mapM GatewayOffer.accept = .ok supplied := by
  unfold accepted?
  cases session.settingsFor arguments <;> cases offer.mapM GatewayOffer.accept <;> simp

/-- What a step does to logging before it says anything. -/
def prepares (session : Session) (s : SessionStep) : History :=
  match s.action with
  | .configure service level => session.logging.configuring service level
  | .makeLogger handle _ => [.renewed (.handle handle)]
  | .log handle method _ fields =>
      (session.handles.get? handle).elim [] fun asked =>
        session.askedUses handle asked method fields
  | .create arguments offer _ =>
      (session.accepted? arguments offer).elim [] fun accepted =>
        session.logging.configuring (accepted.1.get .serviceName) (accepted.1.get .logLevel)
  | _ => []

/-- The logging that a step finds when it says something. -/
def ready (session : Session) (s : SessionStep) : Logging :=
  session.logging.afterAll (session.prepares s)

/-- What a step says: the call of a caller's logger, that a populator's base is empty, or what a
resolution says. -/
def said (session : Session) (s : SessionStep) : List Remark :=
  let scene : Scene := ⟨session.context, session.ready s⟩
  match s.action with
  | .log handle method event fields =>
      scene.remarks ((session.handles.get? handle).elim [] fun asked =>
        session.askedNotes handle asked method event fields)
  | .create arguments offer _ =>
      scene.remarks ((session.accepted? arguments offer).elim [] fun accepted =>
        creationNotes session.logging accepted.1 accepted.2)
  | .resolve user =>
      let within := scene.withUser user.dn user.username
      within.remarks (session.populator.elim [] fun populator =>
        populator.resolveNotes within (s.connection.getD session.connection) user)
  | _ => []

/-- What a step does to logging: what it does before it says anything, and the uses of loggers by
what it says. -/
def events (session : Session) (s : SessionStep) : History :=
  session.prepares s ++ (session.said s).map fun remark => .used remark.note.logger

/-- What a run does to logging. -/
def history (session : Session) : List SessionStep → History
  | [] => []
  | s :: rest => session.events s ++ (session.step s).2.history rest

/-- What the answer of an action reports: the lines of the remarks, and logging with their loggers
used. -/
structure Reports (result : Answer × List Call × List Line × Session) (ready : Logging)
    (remarks : List Remark) : Prop where
  lines : result.2.2.1 = remarks.filterMap ready.written
  logging : result.2.2.2.logging = ready.touchAll remarks

theorem perform_reports {α : Type} {session : Session} {action : Action α}
    {answer : α → Session → Answer × Session} {ready : Logging} {remarks : List Remark}
    (h : Logs action session.ambient ready remarks)
    (hanswer : ∀ a next, (answer a next).2.logging = next.logging) :
    Reports (session.perform action answer) ready remarks := by
  have hlines := h.lines
  have hlogging := h.logging
  cases hrun : action.run session.ambient with
  | mk outcome after =>
    rw [hrun] at hlines hlogging
    cases outcome with
    | error failure =>
      rw [perform_of_error hrun]
      exact ⟨hlines, hlogging⟩
    | ok a =>
      rw [perform_of_ok hrun]
      exact ⟨hlines, (hanswer a _).trans hlogging⟩

/-- Nobody says anything when connections are opened. -/
theorem openTimes_remarks (scene : Scene) (connection : Connection) (opening : Call) (count : Nat) :
    Remarks scene (openTimes connection opening count) [] := by
  induction count with
  | zero => exact Remarks.of_conduct (Conduct.pure ())
  | succ count ih =>
    refine Remarks.bind_ok (Conduct.call opening) ?_
    refine Remarks.bind_silent ?_ fun _ => ih
    cases connection.connectFailure with
    | none => exact Remarks.of_conduct (Conduct.pure ())
    | some failure => exact Remarks.of_conduct (Conduct.fail failure)

theorem create_reports (session : Session) (arguments : Option (Assoc Value))
    (offer : Option GatewayOffer) (hooks : Hooks) :
    Reports (session.create arguments offer hooks)
      (session.logging.afterAll ((session.accepted? arguments offer).elim [] fun accepted =>
        session.logging.configuring (accepted.1.get .serviceName) (accepted.1.get .logLevel)))
      (session.ambient.scene.remarks ((session.accepted? arguments offer).elim [] fun accepted =>
        creationNotes session.logging accepted.1 accepted.2)) := by
  cases haccepted : session.accepted? arguments offer with
  | none =>
    have hnone : ∀ settings supplied, session.settingsFor arguments = .ok settings →
        offer.mapM GatewayOffer.accept ≠ .ok supplied := by
      intro settings supplied hsettings hoffer
      rw [accepted?_eq_some_iff.2 ⟨hsettings, hoffer⟩] at haccepted
      cases haccepted
    obtain ⟨failure, store, connection, -, hcreate⟩ := create_of_refused hooks hnone
    rw [hcreate]
    exact ⟨rfl, rfl⟩
  | some accepted =>
    obtain ⟨settings, supplied⟩ := accepted
    obtain ⟨hsettings, hoffer⟩ := accepted?_eq_some_iff.1 haccepted
    obtain ⟨given, store, connection, -, hcreate⟩ := create_of_accepted hooks hsettings hoffer
    have hlogs := create_logs settings supplied hooks session.ambient
    rw [Logging.configure_snd] at hlogs
    rw [hcreate]
    exact perform_reports hlogs fun _ _ => rfl

/-- What the action of a step reports. -/
theorem act_reports (session : Session) {s : SessionStep} (h : s.action.LeavesLoggers) :
    Reports ({ session with connection := s.connection.getD session.connection }.act s.action)
      (session.ready s) (session.said s) := by
  obtain ⟨action, connection⟩ := s
  have hsilent : ∀ result : Answer × List Call × List Line × Session,
      result.2.2.1 = [] → result.2.2.2.logging = session.logging →
        Reports result session.logging [] := fun _ hlines hlogging => ⟨hlines, hlogging⟩
  cases action with
  | configure service level =>
    have hconfigures : Logs (Action.configureLogging service level) session.ambient
        (session.logging.afterAll (session.logging.configuring service level)) [] :=
      ⟨rfl, session.logging.configure_snd service level⟩
    simp only [act, performUnit]
    exact perform_reports hconfigures fun _ _ => rfl
  | makeLogger handle name => exact ⟨rfl, rfl⟩
  | log handle method event fields =>
    simp only [act, performUnit, ready, prepares, said]
    cases session.handles.get? handle with
    | none => exact ⟨rfl, rfl⟩
    | some asked =>
      exact perform_reports (logThrough_logs _ handle asked event fields h) fun _ _ => rfl
  | create arguments offer hooks =>
    exact create_reports { session with connection := connection.getD session.connection } arguments
      offer hooks
  | resolve user =>
    simp only [act, ready, prepares, said]
    cases session.populator with
    | none => exact ⟨rfl, rfl⟩
    | some populator =>
      exact perform_reports (Logs.of_remarks (populator.resolve_remarks _ _ user)) fun _ _ => rfl
  | bindUser dn username => exact hsilent _ rfl rfl
  | unbindUser failure =>
    simp only [act]
    split <;> exact hsilent _ rfl rfl
  | bindContext fields => exact hsilent _ rfl rfl
  | changeEnvironment changes => exact hsilent _ rfl rfl
  | clearSettings => exact hsilent _ rfl rfl
  | openConnections arguments count =>
    simp only [act]
    split
    · exact hsilent _ rfl rfl
    · next settings hsettings =>
      refine perform_reports (Logs.of_remarks ?_) fun _ _ => rfl
      exact (Remarks.of_conduct (Populator.connectionFactory_conduct _ settings)).bind_silent
        fun opening => openTimes_remarks _ _ opening count

/-- What a step reports. -/
theorem step_reports (session : Session) {s : SessionStep} (h : s.action.LeavesLoggers) :
    (session.step s).1.lines = (session.said s).filterMap (session.ready s).written ∧
      (session.step s).2.logging = session.logging.afterAll (session.events s) := by
  have hact := session.act_reports h
  refine ⟨hact.lines, ?_⟩
  rw [events, Logging.afterAll_append, ← Logging.touchAll_eq]
  exact hact.logging

end Session

end GrantedRoles
