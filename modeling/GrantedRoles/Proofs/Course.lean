import GrantedRoles.Action
import GrantedRoles.Proofs.Log.Taking

/-!
# Courses of actions

What an action does in a scene: how it ends, which calls it makes and which lines it logs. A scene
is what the action finds and leaves behind, the bound context and the state of logging; two states
of logging that differ only in which loggers were used make one scene. One rule for each way of
building an action gives the course of the whole from those of its parts. `Makes` keeps only the
calls of a course, for actions that may end in many ways.
-/

set_option autoImplicit false

namespace GrantedRoles

open Log

/-! ## Scenes -/

/-- A bound context and a state of logging. -/
structure Scene where
  context : Context
  logging : Logging

/-- The scene of an ambient. -/
def Ambient.scene (ambient : Ambient) : Scene := ⟨ambient.context, ambient.logging⟩

/-- An ambient shows a scene: its context is the scene's and its logging treats calls alike. -/
structure Ambient.Shows (ambient : Ambient) (scene : Scene) : Prop where
  context : ambient.context = scene.context
  logging : ambient.logging.Alike scene.logging

theorem Ambient.shows_scene (ambient : Ambient) : ambient.Shows ambient.scene :=
  ⟨rfl, .refl _⟩

namespace Scene

/-- The reply to a call of a logger: that it is taken, or why it is refused. -/
def reply (scene : Scene) (note : Note) : Except Failure Unit :=
  scene.logging.reply scene.context note

/-- A logger takes calls at a level: one without fields is not refused. -/
def Takes (scene : Scene) (logger : Logger) (name : String) (level : Level) : Prop :=
  scene.logging.Takes scene.context logger name level

instance (scene : Scene) (logger : Logger) (name : String) (level : Level) :
    Decidable (scene.Takes logger name level) :=
  inferInstanceAs (Decidable (Logging.Takes _ _ _ _ _))

theorem reply_of_plain {scene : Scene} {note : Note} (h : note.Plain)
    (htakes : scene.Takes note.logger note.name note.level) : scene.reply note = .ok () :=
  Logging.reply_of_plain h htakes

/-- The scene with a user bound. -/
def withUser (scene : Scene) (dn username : String) : Scene :=
  { scene with context := (scene.context.enter (.text dn) (.text username)).1 }

theorem Takes.withUser {scene : Scene} {logger : Logger} {name : String} {level : Level}
    (h : scene.Takes logger name level) (dn username : String) :
    (scene.withUser dn username).Takes logger name level :=
  Logging.Takes.enter h dn username

end Scene

/-! ## Courses -/

/-- In the scene the action ends with this outcome, having made these calls and logged these lines,
and it leaves the scene as it was. -/
def Course {α : Type} (scene : Scene) (action : Action α) (outcome : Except Failure α)
    (calls : List Call) (lines : List Line) : Prop :=
  ∀ ambient : Ambient, ambient.Shows scene → ∃ after : Ambient,
    action.run ambient = (outcome, after) ∧ after.Shows scene ∧
      after.calls = ambient.calls ++ calls ∧ after.lines = ambient.lines ++ lines

namespace Course

variable {α β : Type} {scene : Scene} {calls calls' : List Call} {lines lines' : List Line}

/-- What the course of an action says about one run of it. -/
theorem exists_run {action : Action α} {outcome : Except Failure α} {ambient : Ambient}
    (h : Course ambient.scene action outcome calls lines) :
    ∃ after : Ambient, action.run ambient = (outcome, after) ∧ after.context = ambient.context ∧
      after.calls = ambient.calls ++ calls := by
  obtain ⟨after, hrun, hshows, hcalls, -⟩ := h ambient ambient.shows_scene
  exact ⟨after, hrun, hshows.context, hcalls⟩

theorem ofExcept (outcome : Except Failure α) :
    Course scene (Action.ofExcept outcome) outcome [] [] := by
  intro ambient hshows
  exact ⟨ambient, rfl, hshows, by simp, by simp⟩

protected theorem pure (a : α) : Course scene (pure a : Action α) (.ok a) [] [] :=
  ofExcept (.ok a)

theorem call (c : Call) : Course scene (Action.call c) (.ok ()) [c] [] := by
  intro ambient hshows
  exact ⟨_, rfl, ⟨hshows.context, hshows.logging⟩, rfl, by simp⟩

theorem log (note : Note) :
    Course scene (Action.log note) (scene.reply note) []
      (scene.logging.outcome scene.context note).2.toList := by
  intro ambient hshows
  -- The ambient's own logging may have used other loggers before; it answers as the scene's does.
  have hsame := hshows.logging.outcome_eq ambient.context note
  rw [hshows.context] at hsame
  refine ⟨{ ambient with
    logging := ambient.logging.touch note.logger
    lines := ambient.lines ++ (scene.logging.outcome scene.context note).2.toList },
    ?_, ⟨hshows.context, ?_⟩, by simp, rfl⟩
  · simp only [Action.run, Action.log, Logging.log, Scene.reply, Logging.reply]
    rw [hshows.context, hsame]
  · exact (Logging.touch_alike _ _).trans hshows.logging

theorem bind {action : Action α} {a : α} {next : α → Action β} {outcome : Except Failure β}
    (h : Course scene action (.ok a) calls lines)
    (hnext : Course scene (next a) outcome calls' lines') :
    Course scene (action >>= next) outcome (calls ++ calls') (lines ++ lines') := by
  intro ambient hshows
  obtain ⟨between, hrun, hbetween, hcalls, hlines⟩ := h ambient hshows
  obtain ⟨after, hrun', hafter, hcalls', hlines'⟩ := hnext between hbetween
  -- The second action starts in what the first one left, which still shows the scene.
  refine ⟨after, ?_, hafter, ?_, ?_⟩
  · rw [Action.run_bind_of_ok hrun]
    exact hrun'
  · rw [hcalls', hcalls, List.append_assoc]
  · rw [hlines', hlines, List.append_assoc]

/-- What follows an action may make no call. -/
theorem bind_silent {action : Action α} {a : α} {next : α → Action β} {outcome : Except Failure β}
    (h : Course scene action (.ok a) calls lines)
    (hnext : Course scene (next a) outcome [] lines') :
    Course scene (action >>= next) outcome calls (lines ++ lines') := by
  have hboth := h.bind hnext
  rw [List.append_nil] at hboth
  exact hboth

/-- What follows a failed action does not run. -/
theorem bind_error {action : Action α} {failure : Failure} (next : α → Action β)
    (h : Course scene action (.error failure) calls lines) :
    Course scene (action >>= next) (.error failure) calls lines := by
  intro ambient hshows
  obtain ⟨after, hrun, hafter⟩ := h ambient hshows
  exact ⟨after, Action.run_bind_of_error hrun next, hafter⟩

theorem recover_ok {action : Action α} {a : α} (handler : Failure → Option (Action α))
    (h : Course scene action (.ok a) calls lines) :
    Course scene (action.recover handler) (.ok a) calls lines := by
  intro ambient hshows
  obtain ⟨after, hrun, hafter⟩ := h ambient hshows
  refine ⟨after, ?_, hafter⟩
  change action ambient = _ at hrun
  rw [Action.run, Action.recover, hrun]

theorem recover_handled {action handled : Action α} {failure : Failure}
    {handler : Failure → Option (Action α)} {outcome : Except Failure α}
    (h : Course scene action (.error failure) calls lines)
    (hhandler : handler failure = some handled)
    (hhandled : Course scene handled outcome calls' lines') :
    Course scene (action.recover handler) outcome (calls ++ calls') (lines ++ lines') := by
  intro ambient hshows
  obtain ⟨between, hrun, hbetween, hcalls, hlines⟩ := h ambient hshows
  obtain ⟨after, hrun', hafter, hcalls', hlines'⟩ := hhandled between hbetween
  refine ⟨after, ?_, hafter, ?_, ?_⟩
  · change action ambient = _ at hrun
    rw [Action.run, Action.recover, hrun]
    simp only [hhandler]
    exact hrun'
  · rw [hcalls', hcalls, List.append_assoc]
  · rw [hlines', hlines, List.append_assoc]

/-- A failure that a handler does not take stays. -/
theorem recover_unhandled {action : Action α} {failure : Failure}
    {handler : Failure → Option (Action α)}
    (h : Course scene action (.error failure) calls lines) (hhandler : handler failure = none) :
    Course scene (action.recover handler) (.error failure) calls lines := by
  intro ambient hshows
  obtain ⟨after, hrun, hafter⟩ := h ambient hshows
  refine ⟨after, ?_, hafter⟩
  change action ambient = _ at hrun
  rw [Action.run, Action.recover, hrun]
  simp only [hhandler]

/-- A cleanup leaves the outcome as it is if it succeeds, and replaces it if it fails. -/
theorem ensuring {action : Action α} {cleanup : Action Unit} {outcome : Except Failure α}
    {done : Except Failure Unit} (h : Course scene action outcome calls lines)
    (hcleanup : Course scene cleanup done calls' lines') :
    Course scene (action.ensuring cleanup) (done.bind fun _ => outcome) (calls ++ calls')
      (lines ++ lines') := by
  intro ambient hshows
  obtain ⟨between, hrun, hbetween, hcalls, hlines⟩ := h ambient hshows
  obtain ⟨after, hrun', hafter, hcalls', hlines'⟩ := hcleanup between hbetween
  refine ⟨after, ?_, hafter, ?_, ?_⟩
  · change action ambient = _ at hrun
    change cleanup between = _ at hrun'
    cases done <;> simp only [Action.run, Action.ensuring, hrun, hrun'] <;> rfl
  · rw [hcalls', hcalls, List.append_assoc]
  · rw [hlines', hlines, List.append_assoc]

/-- A user is bound for the length of an action, and the context is as before after it. -/
theorem withUser {action : Action α} {dn username : String} {outcome : Except Failure α}
    (h : Course (scene.withUser dn username) action outcome calls lines) :
    Course scene (Action.withUser dn username action) outcome calls lines := by
  intro ambient hshows
  -- Within, the user is bound; the frame that entering gave puts the two keys back.
  obtain ⟨within, hrun, hwithin, hcalls, hlines⟩ :=
    h { ambient with context := (ambient.context.enter (.text dn) (.text username)).1 }
      ⟨by rw [hshows.context]; rfl, hshows.logging⟩
  refine ⟨{ within with
    context := within.context.leave (ambient.context.enter (.text dn) (.text username)).2 },
    ?_, ⟨?_, hwithin.logging⟩, hcalls, hlines⟩
  · change action _ = _ at hrun
    simp only [Action.run, Action.withUser, hrun]
  · change within.context.leave _ = scene.context
    rw [hwithin.context, hshows.context]
    exact Context.leave_enter _ _ _

end Course

/-! ## The calls of an action -/

/-- In the scene the action makes these calls, however it ends and whatever it logs, and it leaves
the scene as it was. -/
def Makes {α : Type} (scene : Scene) (action : Action α) (calls : List Call) : Prop :=
  ∃ outcome lines, Course scene action outcome calls lines

namespace Makes

variable {α β : Type} {scene : Scene} {calls calls' : List Call}

theorem of_course {action : Action α} {outcome : Except Failure α}
    (h : ∃ lines, Course scene action outcome calls lines) : Makes scene action calls :=
  ⟨outcome, h⟩

theorem ofExcept (outcome : Except Failure α) : Makes scene (Action.ofExcept outcome) [] :=
  ⟨outcome, [], .ofExcept outcome⟩

protected theorem pure (a : α) : Makes scene (pure a : Action α) [] :=
  ⟨.ok a, [], .pure a⟩

theorem log (note : Note) : Makes scene (Action.log note) [] :=
  ⟨_, _, .log note⟩

/-- An action that succeeds is followed by the calls of the next. -/
theorem bind_ok {action : Action α} {a : α} {next : α → Action β}
    (h : ∃ lines, Course scene action (.ok a) calls lines) (hnext : Makes scene (next a) calls') :
    Makes scene (action >>= next) (calls ++ calls') := by
  obtain ⟨lines, h⟩ := h
  obtain ⟨outcome, lines', hnext⟩ := hnext
  exact ⟨outcome, lines ++ lines', h.bind hnext⟩

/-- An action that succeeds without a call leaves the calls to the next. -/
theorem silent_bind {action : Action α} {a : α} {next : α → Action β}
    (h : ∃ lines, Course scene action (.ok a) [] lines) (hnext : Makes scene (next a) calls) :
    Makes scene (action >>= next) calls :=
  bind_ok h hnext

/-- The calls of an action are followed by calls of a kind if the next action makes no others, and
by none if the action fails. -/
theorem bind_all {P : Call → Prop} {action : Action α} {next : α → Action β}
    (h : Makes scene action calls)
    (hnext : ∀ a, ∃ more, (∀ c ∈ more, P c) ∧ Makes scene (next a) more) :
    ∃ more, (∀ c ∈ more, P c) ∧ Makes scene (action >>= next) (calls ++ more) := by
  obtain ⟨outcome, lines, h⟩ := h
  cases outcome with
  | error failure =>
    refine ⟨[], by simp, .error failure, lines, ?_⟩
    rw [List.append_nil]
    exact h.bind_error next
  | ok a =>
    obtain ⟨more, hmore, hmakes⟩ := hnext a
    exact ⟨more, hmore, bind_ok ⟨lines, h⟩ hmakes⟩

/-- What follows an action may make no call. -/
theorem bind_silent {action : Action α} {next : α → Action β} (h : Makes scene action calls)
    (hnext : ∀ a, Makes scene (next a) []) : Makes scene (action >>= next) calls := by
  obtain ⟨more, hmore, hmakes⟩ :=
    h.bind_all (P := fun _ => False) fun a => ⟨[], by simp, hnext a⟩
  have hnone : more = [] := List.eq_nil_iff_forall_not_mem.2 hmore
  rw [hnone, List.append_nil] at hmakes
  exact hmakes

theorem withUser {action : Action α} {dn username : String}
    (h : Makes (scene.withUser dn username) action calls) :
    Makes scene (Action.withUser dn username action) calls := by
  obtain ⟨outcome, lines, h⟩ := h
  exact ⟨outcome, lines, h.withUser⟩

/-- What the calls of an action say about one run of it. -/
theorem exists_run {action : Action α} {ambient : Ambient}
    (h : Makes ambient.scene action calls) :
    ∃ outcome after, action.run ambient = (outcome, after) ∧ after.Shows ambient.scene ∧
      after.calls = ambient.calls ++ calls := by
  obtain ⟨outcome, lines, h⟩ := h
  obtain ⟨after, hrun, hshows, hcalls, -⟩ := h ambient ambient.shows_scene
  exact ⟨outcome, after, hrun, hshows, hcalls⟩

end Makes

end GrantedRoles
