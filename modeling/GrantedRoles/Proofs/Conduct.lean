import GrantedRoles.Proofs.Course

/-!
# What actions remark

The course of an action says which lines it logs. Its conduct also says from which calls of loggers
these lines come, in which contexts, and which loggers are used for them: a logger keeps its service
name from its first use on, also if no line comes of it. The rules are those of courses. `Remarks`
keeps only the calls of loggers, for actions that may end in many ways.
-/

set_option autoImplicit false

namespace GrantedRoles

open Log

namespace Log

/-- A call of a logger, with the context that is bound at the time. -/
structure Remark where
  context : Context
  note : Note

/-- The line that a remark comes to, if it comes to one. -/
def Logging.written (state : Logging) (remark : Remark) : Option Line :=
  (state.outcome remark.context remark.note).2

/-- Uses the loggers of remarks, one after the other. -/
def Logging.touchAll (state : Logging) (remarks : List Remark) : Logging :=
  remarks.foldl (fun state remark => state.touch remark.note.logger) state

@[simp] theorem Logging.touchAll_nil (state : Logging) : state.touchAll [] = state := rfl

theorem Logging.touchAll_append (state : Logging) (remarks more : List Remark) :
    state.touchAll (remarks ++ more) = (state.touchAll remarks).touchAll more :=
  List.foldl_append

/-- Uses of loggers treat calls alike. -/
theorem Logging.touchAll_alike (state : Logging) (remarks : List Remark) :
    (state.touchAll remarks).Alike state := by
  induction remarks generalizing state with
  | nil => exact .refl state
  | cons remark rest ih =>
    exact (ih (state.touch remark.note.logger)).trans (state.touch_alike remark.note.logger)

end Log

/-- Calls of loggers as they are made in a scene. -/
def Scene.remarks (scene : Scene) (notes : List Note) : List Remark :=
  notes.map (Remark.mk scene.context)

theorem Scene.remarks_append (scene : Scene) (notes more : List Note) :
    scene.remarks (notes ++ more) = scene.remarks notes ++ scene.remarks more :=
  List.map_append

/-- The course of an action whose lines are those of the remarks, and which uses their loggers and
no others. -/
structure Conduct {α : Type} (scene : Scene) (action : Action α) (outcome : Except Failure α)
    (calls : List Call) (remarks : List Remark) : Prop where
  course : Course scene action outcome calls (remarks.filterMap scene.logging.written)
  uses : ∀ ambient : Ambient, ambient.Shows scene →
    (action.run ambient).2.logging = ambient.logging.touchAll remarks

namespace Conduct

variable {α β : Type} {scene : Scene} {calls calls' : List Call} {remarks remarks' : List Remark}

/-- An action that logs nothing and leaves logging alone. -/
theorem of_silent {action : Action α} {outcome : Except Failure α}
    (h : Course scene action outcome calls [])
    (hlogging : ∀ ambient, (action.run ambient).2.logging = ambient.logging) :
    Conduct scene action outcome calls [] :=
  ⟨h, fun ambient _ => hlogging ambient⟩

/-- The course of an action whose remarks do not matter. -/
theorem exists_course {action : Action α} {outcome : Except Failure α}
    (h : Conduct scene action outcome calls remarks) :
    ∃ lines, Course scene action outcome calls lines :=
  ⟨_, h.course⟩

theorem ofExcept (outcome : Except Failure α) :
    Conduct scene (Action.ofExcept outcome) outcome [] [] :=
  of_silent (.ofExcept outcome) fun _ => rfl

protected theorem pure (a : α) : Conduct scene (pure a : Action α) (.ok a) [] [] :=
  ofExcept (.ok a)

theorem fail (failure : Failure) :
    Conduct scene (Action.fail failure : Action α) (.error failure) [] [] :=
  ofExcept (.error failure)

theorem call (c : Call) : Conduct scene (Action.call c) (.ok ()) [c] [] :=
  of_silent (.call c) fun _ => rfl

/-- Logging is one remark. -/
theorem log (note : Note) :
    Conduct scene (Action.log note) (scene.reply note) [] [⟨scene.context, note⟩] where
  course := by
    have hline : [Remark.mk scene.context note].filterMap scene.logging.written
        = (scene.logging.outcome scene.context note).2.toList := by
      rw [List.filterMap_cons, List.filterMap_nil, Logging.written]
      cases (scene.logging.outcome scene.context note).2 <;> rfl
    rw [hline]
    exact Course.log note
  uses := fun _ _ => rfl

theorem bind {action : Action α} {a : α} {next : α → Action β} {outcome : Except Failure β}
    (h : Conduct scene action (.ok a) calls remarks)
    (hnext : Conduct scene (next a) outcome calls' remarks') :
    Conduct scene (action >>= next) outcome (calls ++ calls') (remarks ++ remarks') where
  course := by
    rw [List.filterMap_append]
    exact h.course.bind hnext.course
  uses := by
    intro ambient hshows
    obtain ⟨between, hrun, hbetween, -⟩ := h.course ambient hshows
    have hfirst := h.uses ambient hshows
    have hsecond := hnext.uses between hbetween
    rw [hrun] at hfirst
    -- The second action finds the loggers as the first one left them.
    rw [Action.run_bind_of_ok hrun, hsecond, hfirst, Logging.touchAll_append]

/-- What follows an action may make no call. -/
theorem bind_silent {action : Action α} {a : α} {next : α → Action β} {outcome : Except Failure β}
    (h : Conduct scene action (.ok a) calls remarks)
    (hnext : Conduct scene (next a) outcome [] remarks') :
    Conduct scene (action >>= next) outcome calls (remarks ++ remarks') := by
  have hboth := h.bind hnext
  rw [List.append_nil] at hboth
  exact hboth

/-- What follows a failed action is not remarked. -/
theorem bind_error {action : Action α} {failure : Failure} (next : α → Action β)
    (h : Conduct scene action (.error failure) calls remarks) :
    Conduct scene (action >>= next) (.error failure) calls remarks where
  course := h.course.bind_error next
  uses := by
    intro ambient hshows
    obtain ⟨after, hrun, -⟩ := h.course ambient hshows
    have hfirst := h.uses ambient hshows
    rw [hrun] at hfirst
    rw [Action.run_bind_of_error hrun]
    exact hfirst

/-- What is made of the value of an action says and calls nothing. -/
theorem map {action : Action α} (f : α → β) {outcome : Except Failure α}
    (h : Conduct scene action outcome calls remarks) :
    Conduct scene (action >>= fun a => pure (f a)) (outcome.map f) calls remarks := by
  cases outcome with
  | error failure => exact h.bind_error _
  | ok a =>
    have hmade : Conduct scene (pure (f a)) (.ok (f a)) [] [] := Conduct.pure (f a)
    have hboth : Conduct scene (action >>= fun a => pure (f a)) _ _ _ := h.bind_silent hmade
    rw [List.append_nil] at hboth
    exact hboth

/-- What follows a remark takes place if the remark is taken. -/
theorem log_bind {note : Note} {next : Unit → Action β} {outcome : Except Failure β}
    (hnext : Conduct scene (next ()) outcome [] []) :
    Conduct scene (Action.log note >>= next) ((scene.reply note).bind fun _ => outcome) []
      [⟨scene.context, note⟩] := by
  have hnote : Conduct scene (Action.log note) (scene.reply note) [] _ := log note
  cases hreply : scene.reply note with
  | error failure =>
    rw [hreply] at hnote
    exact hnote.bind_error next
  | ok _ =>
    rw [hreply] at hnote
    exact hnote.bind hnext

/-- What a handler has no answer to stays. -/
theorem recover_kept {action : Action α} {outcome : Except Failure α}
    {handler : Failure → Option (Action α)} (h : Conduct scene action outcome calls remarks)
    (hkept : ∀ failure, outcome = .error failure → handler failure = none) :
    Conduct scene (action.recover handler) outcome calls remarks := by
  refine ⟨?_, ?_⟩
  · cases outcome with
    | ok a => exact h.course.recover_ok handler
    | error failure => exact h.course.recover_unhandled (hkept failure rfl)
  · intro ambient hshows
    obtain ⟨after, hrun, -⟩ := h.course ambient hshows
    have hfirst := h.uses ambient hshows
    rw [hrun] at hfirst
    change action ambient = _ at hrun
    rw [Action.run, Action.recover, hrun]
    cases outcome with
    | ok a => exact hfirst
    | error failure =>
      simp only [hkept failure rfl]
      exact hfirst

theorem recover_handled {action handled : Action α} {failure : Failure}
    {handler : Failure → Option (Action α)} {outcome : Except Failure α}
    (h : Conduct scene action (.error failure) calls remarks)
    (hhandler : handler failure = some handled)
    (hhandled : Conduct scene handled outcome calls' remarks') :
    Conduct scene (action.recover handler) outcome (calls ++ calls') (remarks ++ remarks') where
  course := by
    rw [List.filterMap_append]
    exact h.course.recover_handled hhandler hhandled.course
  uses := by
    intro ambient hshows
    obtain ⟨between, hrun, hbetween, -⟩ := h.course ambient hshows
    have hfirst := h.uses ambient hshows
    have hsecond := hhandled.uses between hbetween
    rw [hrun] at hfirst
    change action ambient = _ at hrun
    rw [Action.run, Action.recover, hrun]
    simp only [hhandler]
    change (handled.run between).2.logging = _
    rw [hsecond, hfirst, Logging.touchAll_append]

theorem ensuring {action : Action α} {cleanup : Action Unit} {outcome : Except Failure α}
    {done : Except Failure Unit} (h : Conduct scene action outcome calls remarks)
    (hcleanup : Conduct scene cleanup done calls' remarks') :
    Conduct scene (action.ensuring cleanup) (done.bind fun _ => outcome) (calls ++ calls')
      (remarks ++ remarks') where
  course := by
    rw [List.filterMap_append]
    exact h.course.ensuring hcleanup.course
  uses := by
    intro ambient hshows
    obtain ⟨between, hrun, hbetween, -⟩ := h.course ambient hshows
    obtain ⟨after, hrun', -⟩ := hcleanup.course between hbetween
    have hfirst := h.uses ambient hshows
    have hsecond := hcleanup.uses between hbetween
    rw [hrun] at hfirst
    rw [hrun'] at hsecond
    have hlast : (action.ensuring cleanup).run ambient
        = (done.bind fun _ => outcome, after) := by
      change action ambient = _ at hrun
      change cleanup between = _ at hrun'
      cases done <;> simp only [Action.run, Action.ensuring, hrun, hrun'] <;> rfl
    rw [hlast, Logging.touchAll_append, ← hfirst]
    exact hsecond

/-- What is remarked while a user is bound is remarked in the context with the user. -/
theorem withUser {action : Action α} {dn username : String} {outcome : Except Failure α}
    (h : Conduct (scene.withUser dn username) action outcome calls remarks) :
    Conduct scene (Action.withUser dn username action) outcome calls remarks where
  course := h.course.withUser
  uses := by
    intro ambient hshows
    exact h.uses { ambient with context := (ambient.context.enter (.text dn) (.text username)).1 }
      ⟨by rw [hshows.context]; rfl, hshows.logging⟩

end Conduct

/-! ## Outcomes with remarks -/

section Settling

variable {α : Type} {scene : Scene}

/-- What becomes of an outcome with calls of loggers: one that is refused takes its place, the last
one if several are refused. -/
def settle (scene : Scene) (notes : List Note) (outcome : Except Failure α) : Except Failure α :=
  notes.foldl (fun outcome note => (scene.reply note).bind fun _ => outcome) outcome

@[simp] theorem settle_nil (outcome : Except Failure α) : settle scene [] outcome = outcome := rfl

theorem settle_singleton (note : Note) (outcome : Except Failure α) :
    settle scene [note] outcome = (scene.reply note).bind fun _ => outcome := rfl

theorem settle_append (notes more : List Note) (outcome : Except Failure α) :
    settle scene (notes ++ more) outcome
      = settle scene more (settle scene notes outcome) :=
  List.foldl_append

/-- Calls that are taken leave the outcome as it is. -/
theorem settle_of_taken {notes : List Note} (h : ∀ note ∈ notes, scene.reply note = .ok ())
    (outcome : Except Failure α) : settle scene notes outcome = outcome := by
  induction notes generalizing outcome with
  | nil => rfl
  | cons note rest ih =>
    rw [List.forall_mem_cons] at h
    have hfirst : settle scene (note :: rest) outcome
        = settle scene rest ((scene.reply note).bind fun _ => outcome) := rfl
    rw [hfirst, h.1, ih h.2]
    rfl

theorem settle_map {β : Type} (notes : List Note) (outcome : Except Failure α) (f : α → β) :
    (settle scene notes outcome).map f = settle scene notes (outcome.map f) := by
  induction notes generalizing outcome with
  | nil => rfl
  | cons note rest ih =>
    change (settle scene rest ((scene.reply note).bind fun _ => outcome)).map f
      = settle scene rest ((scene.reply note).bind fun _ => outcome.map f)
    rw [ih]
    cases scene.reply note <;> rfl

/-- A failure stays one, if only because a call is refused. -/
theorem exists_settle_error (notes : List Note) (failure : Failure) :
    ∃ other, settle scene notes (.error failure : Except Failure α) = .error other := by
  induction notes generalizing failure with
  | nil => exact ⟨failure, rfl⟩
  | cons note rest ih =>
    change ∃ other, settle scene rest ((scene.reply note).bind fun _ => .error failure) = _
    cases scene.reply note with
    | error refusal => exact ih refusal
    | ok done => exact ih failure

/-- What settles successfully had succeeded, and all calls were taken. -/
theorem settle_eq_ok_iff {notes : List Note} {outcome : Except Failure α} {a : α} :
    settle scene notes outcome = .ok a ↔
      outcome = .ok a ∧ ∀ note ∈ notes, scene.reply note = .ok () := by
  induction notes generalizing outcome with
  | nil => simp
  | cons note rest ih =>
    change settle scene rest ((scene.reply note).bind fun _ => outcome) = .ok a ↔ _
    rw [ih, List.forall_mem_cons]
    cases scene.reply note <;> simp [Except.bind]

/-- Settling after something that can fail is settling what follows it. -/
theorem settle_bind (notes : List Note) (first : Except Failure Unit)
    (next : Except Failure α) :
    (settle scene notes first).bind (fun _ => next)
      = settle scene notes (first.bind fun _ => next) := by
  induction notes generalizing first with
  | nil => rfl
  | cons note rest ih =>
    change (settle scene rest ((scene.reply note).bind fun _ => first)).bind _
      = settle scene rest ((scene.reply note).bind fun _ => first.bind fun _ => next)
    rw [ih]
    cases scene.reply note <;> rfl

end Settling

/-! ## The remarks of an action -/

/-- In the scene the action makes these remarks, however it ends. -/
def Remarks {α : Type} (scene : Scene) (action : Action α) (remarks : List Remark) : Prop :=
  ∃ outcome calls, Conduct scene action outcome calls remarks

namespace Remarks

variable {α β : Type} {scene : Scene} {remarks remarks' : List Remark}

theorem of_conduct {action : Action α} {outcome : Except Failure α} {calls : List Call}
    (h : Conduct scene action outcome calls remarks) : Remarks scene action remarks :=
  ⟨outcome, calls, h⟩

/-- An action that succeeds is followed by the remarks of the next. -/
theorem bind_ok {action : Action α} {a : α} {next : α → Action β} {calls : List Call}
    (h : Conduct scene action (.ok a) calls remarks) (hnext : Remarks scene (next a) remarks') :
    Remarks scene (action >>= next) (remarks ++ remarks') := by
  obtain ⟨outcome, calls', hnext⟩ := hnext
  exact ⟨outcome, calls ++ calls', h.bind hnext⟩

/-- What follows an action may remark nothing. -/
theorem bind_silent {action : Action α} {next : α → Action β} (h : Remarks scene action remarks)
    (hnext : ∀ a, Remarks scene (next a) []) : Remarks scene (action >>= next) remarks := by
  obtain ⟨outcome, calls, h⟩ := h
  cases outcome with
  | error failure => exact ⟨_, _, h.bind_error next⟩
  | ok a =>
    have hboth := bind_ok h (hnext a)
    rw [List.append_nil] at hboth
    exact hboth

theorem withUser {action : Action α} {dn username : String}
    (h : Remarks (scene.withUser dn username) action remarks) :
    Remarks scene (Action.withUser dn username action) remarks := by
  obtain ⟨outcome, calls, h⟩ := h
  exact ⟨outcome, calls, h.withUser⟩

end Remarks

end GrantedRoles
