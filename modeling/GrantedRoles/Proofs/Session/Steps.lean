import GrantedRoles.Session

/-!
# Steps of a session

The steps that run an action, as equations: what `perform` makes of a run, and what creating a
populator performs once its settings and its gateway are there.
-/

set_option autoImplicit false

namespace GrantedRoles

open Log

/-- The answer to the creation of a populator. -/
def Answer.ofCreation : Except Failure Populator → Answer
  | .ok populator => .created populator
  | .error failure => .failed failure

/-- The answer to an action without a value. -/
def Answer.ofUnit : Except Failure Unit → Answer
  | .ok () => .done
  | .error failure => .failed failure

namespace Session

/-- The settings for a populator: the given ones, or else those of the store. -/
def settingsFor (session : Session) (arguments : Option (Assoc Value)) : Except Failure Settings :=
  (givenSettings session.store arguments).bind fun given => (settingsOr given session.store).1

/-- The session after an action: the action changes the bound context and logging alone. -/
def left (session : Session) (after : Ambient) : Session :=
  { session with context := after.context, logging := after.logging }

/-- A session as the ambient of an action. -/
def ambient (session : Session) : Ambient :=
  { context := session.context, logging := session.logging }

section Perform

variable {α : Type} {session : Session} {action : Action α} {after : Ambient}
  {answer : α → Session → Answer × Session}

theorem perform_of_ok {a : α} (h : action.run session.ambient = (.ok a, after)) :
    session.perform action answer = ((answer a (session.left after)).1, after.calls, after.lines,
      (answer a (session.left after)).2) := by
  rw [ambient] at h
  simp only [perform, h]
  rfl

theorem perform_of_error {failure : Failure}
    (h : action.run session.ambient = (.error failure, after)) :
    session.perform action answer
      = (.failed failure, after.calls, after.lines, session.left after) := by
  rw [ambient] at h
  simp only [perform, h]
  rfl

theorem performUnit_answer (session : Session) (action : Action Unit) :
    (session.performUnit action).1 = .ofUnit (action.run session.ambient).1 := by
  cases hrun : action.run session.ambient with
  | mk outcome after =>
    cases outcome with
    | error failure => rw [performUnit, perform_of_error hrun, Answer.ofUnit]
    | ok done => rw [performUnit, perform_of_ok hrun, Answer.ofUnit]

/-- Performing keeps what answering keeps, unless it is about the context or logging. -/
theorem perform_keeps {β : Type} {read : Session → β} (session : Session) (action : Action α)
    (hleft : ∀ after, read (session.left after) = read session)
    (hanswer : ∀ a next, read (answer a next).2 = read next) :
    read (session.perform action answer).2.2.2 = read session := by
  cases hrun : action.run session.ambient with
  | mk outcome after =>
    cases outcome with
    | error failure =>
      rw [perform_of_error hrun]
      exact hleft after
    | ok a =>
      rw [perform_of_ok hrun]
      exact (hanswer a _).trans (hleft after)

end Perform

/-- A creation leaves the store as it was, unless it fetches settings from it. -/
def FetchesAtMost (store after : SettingsStore) : Prop := after = store ∨ after = store.fetch.2

theorem fetchesAtMost_of_settingsOr {given : Option Settings} {store after : SettingsStore}
    {outcome : Except Failure Settings} (h : settingsOr given store = (outcome, after)) :
    FetchesAtMost store after := by
  cases given with
  | some settings =>
    cases h
    exact Or.inl rfl
  | none =>
    cases h
    exact Or.inr rfl

/-- With settings and a gateway, or none to be supplied, a populator is created. The store may have
fetched the settings, and the gateway may bring its own connections. -/
theorem create_of_accepted {session : Session} {arguments : Option (Assoc Value)}
    {offer : Option GatewayOffer} {settings : Settings} {supplied : Option GatewayChoice}
    (hooks : Hooks) (hsettings : session.settingsFor arguments = .ok settings)
    (hoffer : offer.mapM GatewayOffer.accept = .ok supplied) :
    ∃ given store connection, settingsOr given session.store = (.ok settings, store) ∧
      session.create arguments offer hooks
        = { session with store, connection }.perform (Populator.create settings supplied hooks)
            fun populator next =>
              (.created populator,
                { next with populator := some populator, source := sourceIn store given offer }) := by
  unfold settingsFor at hsettings
  unfold create
  cases hgiven : givenSettings session.store arguments with
  | error failure =>
    rw [hgiven] at hsettings
    cases hsettings
  | ok given =>
    rw [hgiven] at hsettings
    cases hfetched : settingsOr given session.store with
    | mk outcome store =>
      change (settingsOr given session.store).1 = _ at hsettings
      rw [hfetched] at hsettings
      change outcome = _ at hsettings
      subst hsettings
      simp only [hoffer, hfetched]
      exact ⟨given, store, _, hfetched, rfl⟩

/-- Without settings or without the offered gateway nothing is created, and nobody is called. -/
theorem create_of_refused {session : Session} {arguments : Option (Assoc Value)}
    {offer : Option GatewayOffer} (hooks : Hooks)
    (h : ∀ settings supplied, session.settingsFor arguments = .ok settings →
      offer.mapM GatewayOffer.accept ≠ .ok supplied) :
    ∃ failure store connection, FetchesAtMost session.store store ∧
      session.create arguments offer hooks
        = (.failed failure, [], [], { session with store, connection }) := by
  unfold settingsFor at h
  unfold create
  cases hgiven : givenSettings session.store arguments with
  | error failure => exact ⟨failure, session.store, session.connection, Or.inl rfl, rfl⟩
  | ok given =>
    cases hoffer : offer.mapM GatewayOffer.accept with
    | error failure => exact ⟨failure, session.store, _, Or.inl rfl, rfl⟩
    | ok supplied =>
      cases hfetched : settingsOr given session.store with
      | mk outcome store =>
        cases outcome with
        | error failure =>
          simp only [hfetched]
          exact ⟨failure, store, _, fetchesAtMost_of_settingsOr hfetched, rfl⟩
        | ok settings =>
          rw [hgiven] at h
          refine absurd hoffer (h settings supplied ?_)
          change (settingsOr given session.store).1 = _
          rw [hfetched]

/-- A creation is refused before anything happens, or it performs the creation of a populator. -/
theorem create_cases (session : Session) (arguments : Option (Assoc Value))
    (offer : Option GatewayOffer) (hooks : Hooks) :
    (∃ settings supplied, session.settingsFor arguments = .ok settings ∧
        offer.mapM GatewayOffer.accept = .ok supplied) ∨
      ∃ failure store connection, FetchesAtMost session.store store ∧
        session.create arguments offer hooks
          = (.failed failure, [], [], { session with store, connection }) := by
  by_cases haccepted : ∃ settings supplied, session.settingsFor arguments = .ok settings ∧
      offer.mapM GatewayOffer.accept = .ok supplied
  · exact Or.inl haccepted
  · refine Or.inr (create_of_refused hooks ?_)
    intro settings supplied hsettings hoffer
    exact haccepted ⟨settings, supplied, hsettings, hoffer⟩

end Session

end GrantedRoles
