import GrantedRoles.Proofs.Directory.Search

/-!
# A release that fails

What a search found is its outcome although the connection cannot be released, as long as the
directory reports the failed release and the warning about it is taken. Any other failure of the
release takes the place of what was found, and a refused warning does so too. `search_unbind_iff`
says exactly when the outcome is the one of a release that succeeds.
-/

set_option autoImplicit false

namespace GrantedRoles

open Log

namespace DirectoryGateway

/-- A failed release goes unnoticed: the directory reports it, and the warning about it is taken. -/
def Unnoticed (scene : Scene) (base : Value) (failure : Failure) : Prop :=
  ∃ fault, failure = .directory fault ∧
    scene.reply (warning unbindFailed [("base", base), ("error", .text fault.message)]) = .ok ()

/-- What comes out of a failed release that does not go unnoticed: why the warning is refused, or
the failure itself. -/
def replacement (scene : Scene) (base : Value) (failure : Failure) : Failure :=
  match failure with
  | .directory fault =>
      match scene.reply
          (warning unbindFailed [("base", base), ("error", .text fault.message)]) with
      | .error refusal => refusal
      | .ok () => failure
  | other => other

/-- A failed release goes unnoticed or comes out. -/
theorem released_some (scene : Scene) (base : Value) (failure : Failure) :
    (Unnoticed scene base failure ∧ released scene base (some failure) = .ok ()) ∨
      (¬ Unnoticed scene base failure ∧
        released scene base (some failure) = .error (replacement scene base failure)) := by
  cases failure with
  | directory fault =>
    have hreleased : released scene base (some (.directory fault))
        = (scene.reply (warning unbindFailed
            [("base", base), ("error", .text fault.message)])).bind fun _ => .ok () := rfl
    cases hreply : scene.reply
        (warning unbindFailed [("base", base), ("error", .text fault.message)]) with
    | ok done =>
      rw [hreply] at hreleased
      exact Or.inl ⟨⟨fault, rfl, hreply⟩, hreleased⟩
    | error refusal =>
      rw [hreply] at hreleased
      refine Or.inr ⟨?_, ?_⟩
      · rintro ⟨other, hfault, htaken⟩
        cases hfault
        rw [hreply] at htaken
        cases htaken
      · simp only [replacement, hreply]
        exact hreleased
  | _ =>
    refine Or.inr ⟨?_, rfl⟩
    rintro ⟨fault, h, -⟩
    cases h

/-- Without a connection the outcome of a search does not depend on its release. -/
theorem search_of_not_obtains (scene : Scene) {gateway : DirectoryGateway}
    {connection : Connection} {query : Query} (h : ¬ Obtains gateway connection query) :
    ∃ failure, ∀ unbind, ∃ calls lines, Course scene
      (gateway.search { connection with unbindFailure := unbind } query) (.error failure) calls
      lines := by
  cases hprepared : gateway.prepare query with
  | error failure =>
    exact ⟨failure, fun _ => ⟨_, _, search_unprepared scene _ hprepared⟩⟩
  | ok prepared =>
    have hconnect : connection.connectFailure ≠ none :=
      fun hnone => h ⟨⟨prepared, hprepared⟩, hnone⟩
    obtain ⟨failure, hcourse⟩ := search_refused scene hprepared hconnect
    exact ⟨failure, fun unbind => ⟨_, hcourse unbind⟩⟩

/-- **When a failed release leaves the outcome of a search.** If no connection is obtained, the
outcome is the one of a release that succeeds. If one is, it is that exactly if the failure goes
unnoticed, or the search failed with what comes out of the release anyway. In all other cases that
is the outcome, in place of what the search found. -/
theorem search_unbind_iff (gateway : DirectoryGateway) (connection : Connection) (query : Query)
    (failure : Failure) (ambient : Ambient) :
    let outcome (unbind : Option Failure) : Except Failure TextSet :=
      ((gateway.search { connection with unbindFailure := unbind } query).run ambient).1
    (¬ Obtains gateway connection query → outcome (some failure) = outcome none) ∧
      ∀ filter base, gateway.prepare query = .ok (filter, base) →
        connection.connectFailure = none →
        (outcome (some failure) = outcome none ↔ Unnoticed ambient.scene base failure ∨
          outcome none = .error (replacement ambient.scene base failure)) ∧
        (¬ Unnoticed ambient.scene base failure →
          outcome (some failure) = .error (replacement ambient.scene base failure)) := by
  intro outcome
  have houtcome : ∀ {unbind : Option Failure} {found : Except Failure TextSet} {calls : List Call}
      {lines : List Line}, Course ambient.scene
        (gateway.search { connection with unbindFailure := unbind } query) found calls lines →
      outcome unbind = found := by
    intro unbind found calls lines hcourse
    obtain ⟨after, hrun, -⟩ := hcourse.exists_run
    exact congrArg Prod.fst hrun
  constructor
  · intro hobtains
    obtain ⟨other, hcourse⟩ := search_of_not_obtains ambient.scene hobtains
    obtain ⟨_, _, hnone⟩ := hcourse none
    obtain ⟨_, _, hsome⟩ := hcourse (some failure)
    rw [houtcome hsome, houtcome hnone]
  · intro filter base hprepared hconnect
    obtain ⟨found, calls, -, hcourse⟩ := search_obtained ambient.scene hprepared hconnect
    obtain ⟨lines, hnone⟩ := hcourse none
    obtain ⟨lines', hsome⟩ := hcourse (some failure)
    have hfound : outcome none = found := houtcome hnone
    have hfailed := houtcome hsome
    rcases released_some ambient.scene base failure with
      ⟨hunnoticed, hreleased⟩ | ⟨hnoticed, hreleased⟩
    · -- The release counts as done, so what was found stays.
      have hkept : outcome (some failure) = found := by
        rw [hfailed, hreleased]
        rfl
      refine ⟨⟨fun _ => Or.inl hunnoticed, fun _ => by rw [hkept, hfound]⟩, ?_⟩
      exact fun hnoticed => absurd hunnoticed hnoticed
    · have hlost : outcome (some failure)
          = .error (replacement ambient.scene base failure) := by
        rw [hfailed, hreleased]
        rfl
      refine ⟨⟨?_, ?_⟩, fun _ => hlost⟩
      · intro hsame
        exact Or.inr (by rw [← hsame, hlost])
      · rintro (hunnoticed | hsame)
        · exact absurd hunnoticed hnoticed
        · rw [hlost, hsame]

/-- A release that fails with anything but a report of the directory loses the values that were
found. -/
theorem search_lost_on_unbind :
    let gateway : DirectoryGateway := ⟨.text "dc=x", .connect⟩
    let connection : Connection :=
      { entries := [{ kind := .text "searchResEntry"
                      attributes := [("cn", .list [.text "developers"])] }] }
    let query : Query :=
      { base := .text "ou=groups", template := .text "(member=\x7b0\x7d)",
        params := [.text "uid=ben,dc=x", .text "ben"], wanted := .text "cn",
        scope := .scope .oneLevel }
    let ambient : Ambient := { logging := .configuredAt "DEBUG" }
    let failure : Failure := .foreign .runtime "gone"
    ((gateway.search connection query).run ambient).1 = .ok (TextSet.ofList ["developers"]) ∧
      ((gateway.search { connection with unbindFailure := some failure } query).run ambient).1
        = .error failure := by
  intro gateway connection query ambient failure
  have hprepared : gateway.prepare query
      = .ok ("(member=uid=ben,dc=x)", .text "ou=groups,dc=x") := by cbv
  have hnames : connection.entries.flatMap (·.texts "cn") = ["developers"] := by decide
  have hfound : collect connection.entries query.wanted = .ok (TextSet.ofList ["developers"]) :=
    congrArg (fun names => Except.ok (TextSet.ofList names)) hnames
  have hworks : connection.Works := by
    refine ⟨rfl, rfl, ?_, ⟨_, _, rfl, rfl, rfl⟩⟩
    intro _ h
    cases h
  -- One search over each connection: only the second release replaces what was found.
  obtain ⟨_, hsearch⟩ : ∃ lines, Course ambient.scene (gateway.search connection query) _ _ lines :=
    search_course hworks hprepared rfl rfl hfound (Or.inl rfl)
  obtain ⟨_, _, -, hcourse⟩ := search_obtained ambient.scene hprepared hworks.connects
  obtain ⟨_, hlost⟩ := hcourse (some failure)
  obtain ⟨_, hfinds, -⟩ := hsearch.exists_run
  obtain ⟨_, hfails, -⟩ := hlost.exists_run
  exact ⟨congrArg Prod.fst hfinds, congrArg Prod.fst hfails⟩

end DirectoryGateway

end GrantedRoles
