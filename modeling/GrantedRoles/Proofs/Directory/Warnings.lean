import GrantedRoles.Directory.Gateway
import GrantedRoles.Proofs.Conduct

/-!
# What a directory search warns of

A search warns of everything that the directory reports: that a connection cannot be opened, that a
search was interrupted, refused or not answered, that a connection cannot be released. `finding` is
what using an open connection comes to, and `search_conduct` says of a search over any connection
how it ends, what it calls and which warnings it makes. Each warning is the last thing of its part
of the search, so that a refused one changes how the search ends and nothing else.
-/

set_option autoImplicit false

namespace GrantedRoles

open Log

namespace DirectoryGateway

variable {α : Type} {scene : Scene}

/-! ## Warnings -/

/-- The event of a failed search. -/
def searchFailed : String := "directory_search_failed"

/-- The event of a failed release. -/
def unbindFailed : String := "directory_unbind_failed"

/-- The call that makes a warning. -/
def warning (event : String) (fields : List (String × Value)) : Note :=
  { logger := .gateway, name := loggerName, level := .warning, event := .text event,
    fields := fields }

/-- The warning of what the directory reports about something. No other failure is warned of. -/
def reports (event : String) (about : List (String × Value)) : Option Failure → List Note
  | some (.directory fault) => [warning event (about ++ [("error", .text fault.message)])]
  | _ => []

theorem warn_conduct (event : String) (fields : List (String × Value)) :
    Conduct scene (warn event fields) (settle scene [warning event fields] (.ok ())) []
      (scene.remarks [warning event fields]) := by
  have hlog : Conduct scene (warn event fields) (scene.reply (warning event fields)) [] _ :=
    Conduct.log (warning event fields)
  have hsettle : settle scene [warning event fields] (.ok ())
      = scene.reply (warning event fields) := by
    rw [settle_singleton]
    cases scene.reply (warning event fields) <;> rfl
  rw [hsettle]
  exact hlog

theorem warn_fail_conduct (event : String) (fields : List (String × Value)) (failure : Failure) :
    Conduct scene (do
        warn event fields
        Action.fail failure : Action α) (settle scene [warning event fields] (.error failure)) []
      (scene.remarks [warning event fields]) :=
  Conduct.log_bind (Conduct.fail failure)

/-! ## Opening and releasing -/

/-- How a connection to a base fails to open, if it does: what the directory reports becomes a
failed search. -/
def refusal? : Option Failure → Except Failure Unit
  | none => .ok ()
  | some (.directory fault) => .error (.search (.noConnection fault))
  | some failure => .error failure

/-- What opening a connection comes to. -/
def connected (scene : Scene) (base : Value) (failure : Option Failure) : Except Failure Unit :=
  settle scene (reports searchFailed [("base", base)] failure) (refusal? failure)

/-- How the release of a connection fails, if it does: that the directory reports something does not
matter. -/
def unreleased? : Option Failure → Except Failure Unit
  | none => .ok ()
  | some (.directory _) => .ok ()
  | some failure => .error failure

/-- What releasing a connection comes to. -/
def released (scene : Scene) (base : Value) (failure : Option Failure) : Except Failure Unit :=
  settle scene (reports unbindFailed [("base", base)] failure) (unreleased? failure)

/-- A connection that cannot be opened fails, if only because that cannot be warned of. -/
theorem exists_connected_eq_error (scene : Scene) (base : Value) {failure : Option Failure}
    (h : failure ≠ none) : ∃ other, connected scene base failure = .error other := by
  obtain ⟨first, hfirst⟩ : ∃ first, refusal? failure = .error first := by
    cases failure with
    | none => exact absurd rfl h
    | some failure => cases failure <;> exact ⟨_, rfl⟩
  rw [connected, hfirst]
  exact exists_settle_error _ first

/-- A call on a collaborator, and how it fails, if it does. -/
theorem call_conduct (c : Call) (failure : Option Failure) :
    Conduct scene (do
      Action.call c
      failWith failure) (failure.elim (.ok ()) .error) [c] [] := by
  have hfails : Conduct scene (failWith failure) (failure.elim (.ok ()) .error) [] [] := by
    cases failure with
    | none => exact Conduct.pure ()
    | some failure => exact Conduct.fail failure
  exact (Conduct.call c).bind hfails

theorem connect_conduct (gateway : DirectoryGateway) (connection : Connection) (base : Value) :
    Conduct scene (gateway.connect connection base) (connected scene base connection.connectFailure)
      [gateway.opening]
      (scene.remarks (reports searchFailed [("base", base)] connection.connectFailure)) := by
  unfold connect
  have hopens : Conduct scene _ _ _ _ := call_conduct gateway.opening connection.connectFailure
  cases hfailure : connection.connectFailure with
  | none =>
    rw [hfailure] at hopens
    exact hopens.recover_kept (by simp)
  | some failure =>
    rw [hfailure] at hopens
    cases failure with
    | directory fault =>
      exact hopens.recover_handled rfl
        (warn_fail_conduct searchFailed [("base", base), ("error", .text fault.message)] _)
    | _ => exact hopens.recover_kept (by rintro _ ⟨⟩; rfl)

theorem release_conduct (connection : Connection) (base : Value) :
    Conduct scene (release connection base) (released scene base connection.unbindFailure) [.unbind]
      (scene.remarks (reports unbindFailed [("base", base)] connection.unbindFailure)) := by
  unfold release
  have hreleases : Conduct scene _ _ _ _ := call_conduct .unbind connection.unbindFailure
  cases hfailure : connection.unbindFailure with
  | none =>
    rw [hfailure] at hreleases
    exact hreleases.recover_kept (by simp)
  | some failure =>
    rw [hfailure] at hreleases
    cases failure with
    | directory fault =>
      exact hreleases.recover_handled rfl
        (warn_conduct unbindFailed [("base", base), ("error", .text fault.message)])
    | _ => exact hreleases.recover_kept (by rintro _ ⟨⟩; rfl)

/-! ## Using an open connection -/

/-- What using an open connection comes to: the outcome if the warnings are taken, the calls and the
warnings. -/
structure Finding where
  outcome : Except Failure TextSet
  calls : List Call := []
  warnings : List Note := []

/-- The outcome, unless a warning is refused. -/
def Finding.settled (scene : Scene) (finding : Finding) : Except Failure TextSet :=
  settle scene finding.warnings finding.outcome

/-- What the answer to a search comes to. -/
def answered (connection : Connection) (base : Value) (filter : String) (wanted : Value) : Finding :=
  let about : List (String × Value) := [("base", base), ("filter", .text filter)]
  match Connection.verdict connection.result with
  | .error failure => { outcome := .error failure }
  | .ok .unknown =>
      { outcome := .error (.quoting [base] (.search (.noResult base filter)))
        warnings := [warning searchFailed (about ++ [("result", .null)])] }
  | .ok (.refused code description) =>
      { outcome := .error
          (.quoting [base, description, code] (.search (.refused base filter description code)))
        warnings := [warning searchFailed
          (about ++ [("result", code), ("description", description)])] }
  | .ok .success => { outcome := collect connection.entries wanted }

/-- What using an open connection comes to. -/
def finding (connection : Connection) (base : Value) (filter : String) (query : Query) : Finding :=
  match scopeOf query.scope with
  | .error failure => { outcome := .error failure }
  | .ok scope =>
      let about : List (String × Value) := [("base", base), ("filter", .text filter)]
      match connection.searchFailure with
      | some (.directory fault) =>
          { outcome := .error (.quoting [base] (.search (.interrupted base filter fault)))
            calls := [.search base filter scope query.wanted]
            warnings := reports searchFailed about (some (.directory fault)) }
      | some failure =>
          { outcome := .error failure, calls := [.search base filter scope query.wanted] }
      | none =>
          { answered connection base filter query.wanted with
            calls := [.search base filter scope query.wanted] }

/-- A failure is none that the directory reports. -/
def IsUnreported : Failure → Prop
  | .directory _ => False
  | _ => True

/-- The handler of what the directory reports. -/
def handling (handled : DirectoryFault → Action α) : Failure → Option (Action α)
  | .directory fault => some (handled fault)
  | _ => none

theorem handling_eq_none {handled : DirectoryFault → Action α} {failure : Failure}
    (h : IsUnreported failure) : handling handled failure = none := by
  cases failure with
  | directory fault => exact absurd h id
  | _ => rfl

theorem isUnreported_of_scopeOf {scope : Value} {failure : Failure}
    (h : scopeOf scope = .error failure) : IsUnreported failure := by
  unfold scopeOf at h
  split at h
  · cases h
  · cases h
    split <;> trivial

theorem isUnreported_of_verdict {result : Value} {failure : Failure}
    (h : Connection.verdict result = .error failure) : IsUnreported failure := by
  have hitems : ∀ items, Connection.verdict.ofItems items = .error failure →
      IsUnreported failure := by
    intro items hitems
    unfold Connection.verdict.ofItems at hitems
    split at hitems
    · cases hitems
      trivial
    · cases hitems
  unfold Connection.verdict at h
  -- What is no dictionary is ill typed or no answer; a dictionary is always judged.
  repeat' split at h
  all_goals first | cases h | exact hitems _ h
  all_goals trivial

theorem isUnreported_of_collect {entries : List Entry} {wanted : Value} {failure : Failure}
    (h : collect entries wanted = .error failure) : IsUnreported failure := by
  unfold collect at h
  repeat' split at h
  all_goals cases h
  all_goals trivial

theorem isUnreported_quoting (values : List Value) {failure : Failure} (h : IsUnreported failure) :
    IsUnreported (.quoting values failure) := by
  unfold Failure.quoting
  split
  · exact h
  · trivial

theorem isUnreported_of_reply {note : Note} {failure : Failure}
    (h : scene.reply note = .error failure) : IsUnreported failure := by
  rcases Logging.failure_of_reply h with rfl | rfl | rfl <;> trivial

/-- Settling makes nothing that the directory reports. -/
theorem isUnreported_of_settle {warnings : List Note} {outcome : Except Failure α}
    (houtcome : ∀ failure, outcome = .error failure → IsUnreported failure) {failure : Failure}
    (h : settle scene warnings outcome = .error failure) : IsUnreported failure := by
  induction warnings generalizing outcome with
  | nil => exact houtcome failure h
  | cons note rest ih =>
    have hfirst : ∀ other, (scene.reply note).bind (fun _ => outcome) = .error other →
        IsUnreported other := by
      intro other hother
      cases hreply : scene.reply note with
      | error refusal =>
        rw [hreply] at hother
        cases hother
        exact isUnreported_of_reply hreply
      | ok done =>
        rw [hreply] at hother
        exact houtcome other hother
    exact ih hfirst h

theorem isUnreported_of_settled {connection : Connection} {base wanted : Value} {filter : String}
    {failure : Failure}
    (h : (answered connection base filter wanted).settled scene = .error failure) :
    IsUnreported failure := by
  refine isUnreported_of_settle ?_ h
  intro other hother
  unfold answered at hother
  cases hverdict : Connection.verdict connection.result with
  | error fault =>
    simp only [hverdict] at hother
    cases hother
    exact isUnreported_of_verdict hverdict
  | ok verdict =>
    cases verdict with
    | success =>
      simp only [hverdict] at hother
      exact isUnreported_of_collect hother
    | unknown =>
      simp only [hverdict] at hother
      cases hother
      exact isUnreported_quoting _ trivial
    | refused code description =>
      simp only [hverdict] at hother
      cases hother
      exact isUnreported_quoting _ trivial

/-- Judging the answer to a search. -/
def judge (connection : Connection) (base : Value) (filter : String) (wanted : Value) :
    Action TextSet := do
  match ← Action.ofExcept (Connection.verdict connection.result) with
  | .unknown =>
      warn searchFailed [("base", base), ("filter", .text filter), ("result", .null)]
      Action.fail (.quoting [base] (.search (.noResult base filter)))
  | .refused code description =>
      warn searchFailed [("base", base), ("filter", .text filter), ("result", code),
        ("description", description)]
      Action.fail
        (.quoting [base, description, code] (.search (.refused base filter description code)))
  | .success => Action.ofExcept (collect connection.entries wanted)

theorem judge_conduct (connection : Connection) (base : Value) (filter : String) (wanted : Value) :
    Conduct scene (judge connection base filter wanted)
      ((answered connection base filter wanted).settled scene) []
      (scene.remarks (answered connection base filter wanted).warnings) := by
  unfold judge answered Finding.settled
  cases Connection.verdict connection.result with
  | error failure => exact (Conduct.ofExcept (.error failure)).bind_error _
  | ok verdict =>
    -- Nothing but the verdict matters for how the action goes on.
    refine (Conduct.ofExcept (.ok verdict)).bind ?_
    cases verdict with
    | unknown => exact warn_fail_conduct searchFailed _ _
    | refused code description => exact warn_fail_conduct searchFailed _ _
    | success => exact Conduct.ofExcept _

/-- Searching once in a scope. -/
def ask (connection : Connection) (base : Value) (filter : String) (wanted : Value) (s : Scope) :
    Action TextSet := do
  Action.call (.search base filter s wanted)
  failWith connection.searchFailure
  judge connection base filter wanted

theorem ask_conduct (connection : Connection) (base : Value) (filter : String) (wanted : Value)
    (s : Scope) :
    Conduct scene (ask connection base filter wanted s)
      (connection.searchFailure.elim ((answered connection base filter wanted).settled scene) .error)
      [.search base filter s wanted]
      (connection.searchFailure.elim
        (scene.remarks (answered connection base filter wanted).warnings) fun _ => []) := by
  unfold ask
  cases connection.searchFailure with
  | none =>
    exact (Conduct.call _).bind ((Conduct.pure ()).bind (judge_conduct connection base filter wanted))
  | some failure => exact (Conduct.call _).bind ((Conduct.fail failure).bind_error _)

theorem exchange_eq (connection : Connection) (base : Value) (filter : String) (query : Query) :
    exchange connection base filter query
      = Action.recover (Action.ofExcept (scopeOf query.scope) >>=
          ask connection base filter query.wanted) (handling fun fault => do
            warn searchFailed
              [("base", base), ("filter", .text filter), ("error", .text fault.message)]
            Action.fail (.quoting [base] (.search (.interrupted base filter fault)))) :=
  rfl

theorem exchange_conduct (connection : Connection) (base : Value) (filter : String)
    (query : Query) :
    Conduct scene (exchange connection base filter query)
      ((finding connection base filter query).settled scene)
      (finding connection base filter query).calls
      (scene.remarks (finding connection base filter query).warnings) := by
  rw [exchange_eq]
  unfold finding
  cases hscope : scopeOf query.scope with
  | error failure =>
    refine ((Conduct.ofExcept (.error failure)).bind_error _).recover_kept ?_
    rintro _ ⟨⟩
    exact handling_eq_none (isUnreported_of_scopeOf hscope)
  | ok s =>
    have hasks : Conduct scene (Action.ofExcept (.ok s) >>= ask connection base filter query.wanted)
        _ _ _ := (Conduct.ofExcept (.ok s)).bind (ask_conduct connection base filter query.wanted s)
    cases hfailure : connection.searchFailure with
    | some failure =>
      rw [hfailure] at hasks
      cases failure with
      | directory fault =>
        exact hasks.recover_handled rfl (warn_fail_conduct searchFailed _ _)
      | _ => exact hasks.recover_kept (by rintro _ ⟨⟩; rfl)
    | none =>
      rw [hfailure] at hasks
      refine hasks.recover_kept ?_
      intro failure hlost
      exact handling_eq_none (isUnreported_of_settled hlost)

/-! ## A whole search -/

/-- How a search over a connection ends. -/
def searchOutcome (scene : Scene) (gateway : DirectoryGateway) (connection : Connection)
    (query : Query) : Except Failure TextSet :=
  (gateway.prepare query).bind fun (filter, base) =>
    (connected scene base connection.connectFailure).bind fun _ =>
      (released scene base connection.unbindFailure).bind fun _ =>
        (finding connection base filter query).settled scene

/-- The calls of a search. A connection that is obtained is released after its use. -/
def searchCalls (gateway : DirectoryGateway) (connection : Connection) (query : Query) :
    List Call :=
  match gateway.prepare query, connection.connectFailure with
  | .error _, _ => []
  | .ok _, some _ => [gateway.opening]
  | .ok (filter, base), none =>
      gateway.opening :: ((finding connection base filter query).calls ++ [.unbind])

/-- The warnings of a search. -/
def searchWarnings (gateway : DirectoryGateway) (connection : Connection) (query : Query) :
    List Note :=
  match gateway.prepare query, connection.connectFailure with
  | .error _, _ => []
  | .ok (_, base), some failure => reports searchFailed [("base", base)] (some failure)
  | .ok (filter, base), none =>
      (finding connection base filter query).warnings
        ++ reports unbindFailed [("base", base)] connection.unbindFailure

/-- **What a search does**, over any connection. -/
theorem search_conduct (gateway : DirectoryGateway) (connection : Connection) (query : Query) :
    Conduct scene (gateway.search connection query) (searchOutcome scene gateway connection query)
      (searchCalls gateway connection query)
      (scene.remarks (searchWarnings gateway connection query)) := by
  unfold search searchOutcome searchCalls searchWarnings
  cases gateway.prepare query with
  | error failure => exact (Conduct.ofExcept (.error failure)).bind_error _
  | ok prepared =>
    obtain ⟨filter, base⟩ := prepared
    have hconnect : Conduct scene _ _ _ _ := connect_conduct gateway connection base
    cases hfailure : connection.connectFailure with
    | some failure =>
      rw [hfailure] at hconnect
      obtain ⟨other, hother⟩ :=
        exists_connected_eq_error scene base (Option.some_ne_none failure)
      rw [hother] at hconnect
      have hfails : (connected scene base (some failure)).bind (fun _ =>
          (released scene base connection.unbindFailure).bind fun _ =>
            (finding connection base filter query).settled scene) = .error other := by
        rw [hother]
        rfl
      simp only [Except.bind] at hfails ⊢
      rw [hfails]
      exact (Conduct.ofExcept (.ok (filter, base))).bind (hconnect.bind_error _)
    | none =>
      rw [hfailure] at hconnect
      -- The release is a cleanup: its calls and warnings come after those of the use.
      rw [Scene.remarks_append]
      exact (Conduct.ofExcept (.ok (filter, base))).bind (hconnect.bind
        ((exchange_conduct connection base filter query).ensuring
          (release_conduct connection base)))

end DirectoryGateway

end GrantedRoles
