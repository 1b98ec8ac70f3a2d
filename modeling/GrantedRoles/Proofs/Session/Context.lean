import GrantedRoles.Proofs.Populating
import GrantedRoles.Proofs.Session.Steps

/-!
# The bound context over a whole session

A caller enters and leaves the binding of a user, binds keys of its own, and creates populators and
resolves users, in any order. Leaving gives the two keys of a user back what the entry found under
them, however they were bound since, and touches no other key; creating and resolving leave the
whole context as it was. `foundAfter` says what the open entries of a run found, and
`context_discipline` says the rest of every run.
-/

set_option autoImplicit false

namespace GrantedRoles

open Log

namespace Session

variable {session : Session}

/-! ## What the entries found -/

/-- What the open entries found, innermost first, after a step: an entry finds the context that it
is made in, and leaving closes the innermost one. -/
def foundBy (session : Session) (s : SessionStep) (found : List Context) : List Context :=
  match s.action with
  | .bindUser _ _ => session.context :: found
  | .unbindUser _ => found.tail
  | _ => found

/-- What the open entries found, innermost first, after the steps of a run. -/
def foundAfter (session : Session) (found : List Context) : List SessionStep → List Context
  | [] => found
  | s :: rest => (session.step s).2.foundAfter (session.foundBy s found) rest

/-- An action that is performed opens and closes no entry. -/
theorem frames_perform {α : Type} (session : Session) (action : Action α)
    {answer : α → Session → Answer × Session}
    (h : ∀ a next, (answer a next).2.frames = next.frames) :
    (session.perform action answer).2.2.2.frames = session.frames :=
  perform_keeps session action (fun _ => rfl) h

theorem frames_create (session : Session) (arguments : Option (Assoc Value))
    (offer : Option GatewayOffer) (hooks : Hooks) :
    (session.create arguments offer hooks).2.2.2.frames = session.frames := by
  rcases session.create_cases arguments offer hooks with
    ⟨settings, supplied, hsettings, hoffer⟩ | ⟨failure, store, connection, -, hcreate⟩
  · obtain ⟨given, store, connection, -, hcreate⟩ := create_of_accepted hooks hsettings hoffer
    rw [hcreate]
    exact frames_perform _ _ fun _ _ => rfl
  · rw [hcreate]

/-- A step keeps for every open entry what it found. -/
theorem frames_step {found : List Context} (h : session.frames = found.map Context.frame)
    (s : SessionStep) :
    (session.step s).2.frames = (session.foundBy s found).map Context.frame := by
  unfold foundBy
  simp only [step]
  -- Only entering and leaving concern the frames; the other actions pass them on.
  cases haction : s.action with
  | bindUser dn username =>
    simp only [act, List.map_cons, h]
    rfl
  | unbindUser failure =>
    cases found with
    | nil => simp [act, h]
    | cons innermost outer => simp [act, h]
  | create arguments offer hooks =>
    simp only [act]
    rw [frames_create, h]
  | resolve user =>
    simp only [act]
    cases hpopulator : session.populator with
    | none => exact h
    | some populator =>
      rw [frames_perform _ _ fun _ _ => rfl]
      exact h
  | configure service level =>
    simp only [act, performUnit]
    rw [frames_perform _ _ fun _ _ => rfl]
    exact h
  | makeLogger handle name => exact h
  | log handle method event fields =>
    simp only [act, performUnit]
    split
    · exact h
    · rw [frames_perform _ _ fun _ _ => rfl]
      exact h
  | bindContext fields => exact h
  | changeEnvironment changes => exact h
  | clearSettings => exact h
  | openConnections arguments count =>
    simp only [act, performUnit]
    split
    · exact h
    · rw [frames_perform _ _ fun _ _ => rfl]
      exact h

/-- A run keeps for every open entry what it found. -/
theorem frames_runAll {found : List Context} {steps : List SessionStep}
    (h : session.frames = found.map Context.frame) :
    (session.runAll steps).2.frames = (session.foundAfter found steps).map Context.frame := by
  induction steps generalizing session found with
  | nil => exact h
  | cons s rest ih =>
    -- The rest of the run starts with what the entries found after the first step.
    exact ih (frames_step h s)

/-! ## Steps that leave the context -/

theorem context_perform {α : Type} (session : Session) {action : Action α}
    {answer : α → Session → Answer × Session}
    (h : (action.run session.ambient).2.context = session.context)
    (hanswer : ∀ a next, (answer a next).2.context = next.context) :
    (session.perform action answer).2.2.2.context = session.context := by
  cases hrun : action.run session.ambient with
  | mk outcome after =>
    rw [hrun] at h
    cases outcome with
    | error failure =>
      rw [perform_of_error hrun]
      exact h
    | ok a =>
      rw [perform_of_ok hrun]
      exact (hanswer a _).trans h

theorem context_create (session : Session) (arguments : Option (Assoc Value))
    (offer : Option GatewayOffer) (hooks : Hooks) :
    (session.create arguments offer hooks).2.2.2.context = session.context := by
  rcases session.create_cases arguments offer hooks with
    ⟨settings, supplied, hsettings, hoffer⟩ | ⟨failure, store, connection, -, hcreate⟩
  · obtain ⟨given, store, connection, -, hcreate⟩ := create_of_accepted hooks hsettings hoffer
    rw [hcreate]
    exact context_perform _ (Populator.context_create settings supplied hooks _) fun _ _ => rfl
  · rw [hcreate]

theorem context_resolve (session : Session) (user : User) :
    (session.act (.resolve user)).2.2.2.context = session.context := by
  simp only [act]
  split
  · rfl
  · next populator hpopulator =>
    obtain ⟨calls, hmakes⟩ :=
      populator.exists_resolve_makes session.ambient.scene session.connection user
    obtain ⟨outcome, after, hrun, hshows, -⟩ := hmakes.exists_run
    have hcontext : (((populator.resolver session.connection).resolve user).run
        session.ambient).2.context = session.context := by
      rw [hrun]
      exact hshows.context
    exact context_perform _ hcontext fun _ _ => rfl

/-! ## The discipline -/

/-- **The bound context is a stack.** In every run, leaving the innermost open entry answers with
the failure that it was left with, if any, and it gives the two keys of a user what that entry found
under them, unbound keys included, and every other key what it holds; an entry must be open for
that. Creating a populator and resolving a user leave the whole context as it was, however they
end. -/
theorem context_discipline {start : Session} (hstart : start.frames = [])
    (earlier : List SessionStep) (s : SessionStep) :
    let session := (start.runAll earlier).2
    let report := (session.step s).1
    let next := (session.step s).2
    (∀ failure innermost outer, s.action = .unbindUser failure →
        start.foundAfter [] earlier = innermost :: outer →
        report.answer = failure.elim .done .failed ∧
          ∀ key, Assoc.get? next.context key
            = if key = Context.userDnKey ∨ key = Context.usernameKey then
                Assoc.get? innermost key
              else Assoc.get? session.context key) ∧
      (∀ failure, s.action = .unbindUser failure → start.foundAfter [] earlier = [] →
        next.context = session.context) ∧
      (∀ arguments offer hooks, s.action = .create arguments offer hooks →
        next.context = session.context) ∧
      ∀ user, s.action = .resolve user → next.context = session.context := by
  intro session report next
  have hframes : session.frames = (start.foundAfter [] earlier).map Context.frame :=
    frames_runAll hstart
  refine ⟨?_, ?_, ?_, ?_⟩
  · intro failure innermost outer haction hfound
    rw [hfound, List.map_cons] at hframes
    -- The frame on top is the one of the context that the innermost entry found.
    have hleft : session.step s = ({ answer := failure.elim .done .failed
                                     context := session.context.leave innermost.frame },
        { session with
          connection := s.connection.getD session.connection
          context := session.context.leave innermost.frame
          frames := outer.map Context.frame }) := by
      simp only [step, haction, act, hframes]
    refine ⟨congrArg (·.1.answer) hleft, ?_⟩
    intro key
    have hnext : next.context = session.context.leave innermost.frame :=
      congrArg (·.2.context) hleft
    rw [hnext]
    exact Context.get?_leave session.context innermost key
  · intro failure haction hfound
    rw [hfound, List.map_nil] at hframes
    change (session.step s).2.context = _
    simp only [step, haction, act, hframes]
  · intro arguments offer hooks haction
    change (session.step s).2.context = _
    simp only [step, haction, act]
    exact context_create _ arguments offer hooks
  · intro user haction
    change (session.step s).2.context = _
    simp only [step, haction]
    exact context_resolve _ user

/-- A caller binds a name for itself, enters the binding of a user and binds over it. Leaving with a
failure gives the caller its own name back, unbinds the user's name, keeps what else was bound, and
passes the failure on. -/
theorem context_discipline_rebound :
    let start : Session := {}
    let caller : SessionStep := { action := .bindContext [("user_dn", .text "caller")] }
    let entry : SessionStep := { action := .bindUser (.text "uid=ben,dc=x") (.text "ben") }
    let rebinding : SessionStep :=
      { action := .bindContext [("user_dn", .text "other"), ("request", .int 7)] }
    let leaving : SessionStep := { action := .unbindUser (some (.foreign .runtime "denied")) }
    let earlier := [caller, entry, rebinding]
    let next := ((start.runAll earlier).2.step leaving).2
    start.frames = [] ∧ start.foundAfter [] earlier = [[("user_dn", .text "caller")]] ∧
      ((start.runAll earlier).2.step leaving).1.answer = .failed (.foreign .runtime "denied") ∧
      Assoc.get? next.context "user_dn" = some (.text "caller") ∧
      Assoc.get? next.context "username" = none ∧
      Assoc.get? next.context "request" = some (.int 7) := by
  intro start caller entry rebinding leaving earlier next
  have hstart : start.frames = [] := rfl
  have hfound : start.foundAfter [] earlier = [[("user_dn", .text "caller")]] := rfl
  have hrequest : Assoc.get? (start.runAll earlier).2.context "request" = some (.int 7) := rfl
  obtain ⟨hleft, -⟩ := context_discipline hstart earlier leaving
  obtain ⟨hanswer, hkeys⟩ := hleft _ _ [] rfl hfound
  refine ⟨hstart, hfound, hanswer, ?_, ?_, ?_⟩
  · exact (hkeys "user_dn").trans rfl
  · exact (hkeys "username").trans rfl
  · exact (hkeys "request").trans hrequest

end Session

end GrantedRoles
