import GrantedRoles.Proofs.Directory.Warnings

/-!
# The course of one connection

What a search does comes to calls of one connection: it is opened, and if it is obtained it is
searched at most once and then released (`Visit`). `search_obtained` separates a search over an
obtained connection from its release: what is found on the connection is the outcome unless the
release replaces it.
-/

set_option autoImplicit false

namespace GrantedRoles

open Log

namespace DirectoryGateway

/-- Below a root that can be written lies a base that can, if it is one of a base that can. -/
theorem exists_absoluteBase {gateway : DirectoryGateway} {base : Value}
    (hroot : gateway.rootDn.isWritable = true) (hbase : base.isWritable = true) :
    ∃ absolute, gateway.absoluteBase base = .ok absolute ∧ absolute.isWritable = true := by
  unfold absoluteBase
  by_cases hempty : base.isTruthy = true
  · by_cases htop : gateway.rootDn.isTruthy = true
    · exact ⟨.text (base.display ++ "," ++ gateway.rootDn.display),
        by simp [hempty, htop, hroot, hbase], rfl⟩
    · exact ⟨base, by simp [hempty, htop], hbase⟩
  · exact ⟨gateway.rootDn, by simp [hempty], hroot⟩

/-- There a search is prepared exactly if its filter renders. -/
theorem exists_prepare_iff {gateway : DirectoryGateway} {query : Query}
    (hroot : gateway.rootDn.isWritable = true) (hbase : query.base.isWritable = true) :
    (∃ prepared, gateway.prepare query = .ok prepared) ↔
      ∃ filter, SearchFilter.render query.template query.params = .ok filter := by
  obtain ⟨absolute, habsolute, -⟩ := exists_absoluteBase hroot hbase
  unfold prepare
  cases SearchFilter.render query.template query.params with
  | error failure =>
    constructor
    · rintro ⟨_, h⟩
      cases h
    · rintro ⟨_, h⟩
      cases h
  | ok filter =>
    rw [habsolute]
    exact ⟨fun _ => ⟨filter, rfl⟩, fun _ => ⟨(filter, absolute), rfl⟩⟩

/-- A connection is obtained for a query: its filter renders, its base can be written, and opening
does not fail. -/
structure Obtains (gateway : DirectoryGateway) (connection : Connection) (query : Query) :
    Prop where
  prepares : ∃ prepared, gateway.prepare query = .ok prepared
  connects : connection.connectFailure = none

/-- The calls of one connection: it is opened, and if it is obtained it is searched at most once and
then released. -/
inductive Visit (opening : Call) (connection : Connection) : List Call → Prop
  | refused (h : connection.connectFailure ≠ none) : Visit opening connection [opening]
  | idle (h : connection.connectFailure = none) : Visit opening connection [opening, .unbind]
  | searched (h : connection.connectFailure = none) (base : Value) (filter : String)
      (scope : Scope) (wanted : Value) :
      Visit opening connection [opening, .search base filter scope wanted, .unbind]

/-- On an open connection one search is made at most. -/
theorem calls_finding (connection : Connection) (base : Value) (filter : String) (query : Query) :
    (finding connection base filter query).calls = [] ∨
      ∃ s, (finding connection base filter query).calls = [.search base filter s query.wanted] := by
  unfold finding
  cases scopeOf query.scope with
  | error failure => exact Or.inl rfl
  | ok s =>
    refine Or.inr ⟨s, ?_⟩
    cases connection.searchFailure with
    | none => rfl
    | some failure => cases failure <;> rfl

section Prepared

variable {scene : Scene} {gateway : DirectoryGateway} {connection : Connection} {query : Query}
  {filter : String} {base : Value} {failure : Failure}

/-- A search without a connection. -/
theorem search_conduct_refused (h : gateway.prepare query = .ok (filter, base))
    (hconnect : connection.connectFailure ≠ none)
    (hfailure : connected scene base connection.connectFailure = .error failure) :
    Conduct scene (gateway.search connection query) (.error failure) [gateway.opening]
      (scene.remarks (searchWarnings gateway connection query)) := by
  obtain ⟨refusal, hrefusal⟩ := Option.ne_none_iff_exists'.1 hconnect
  have hcalls : searchCalls gateway connection query = [gateway.opening] := by
    rw [searchCalls, h, hrefusal]
  have houtcome : searchOutcome scene gateway connection query = .error failure := by
    rw [searchOutcome, h]
    change (connected scene base connection.connectFailure).bind _ = _
    rw [hfailure]
    rfl
  rw [← hcalls, ← houtcome]
  exact search_conduct gateway connection query

/-- A search over a connection: what is found on it is the outcome unless the release fails. -/
theorem search_conduct_obtained (h : gateway.prepare query = .ok (filter, base))
    (hconnect : connection.connectFailure = none) :
    Conduct scene (gateway.search connection query)
      ((released scene base connection.unbindFailure).bind fun _ =>
        (finding connection base filter query).settled scene)
      (gateway.opening :: ((finding connection base filter query).calls ++ [.unbind]))
      (scene.remarks (searchWarnings gateway connection query)) := by
  have hcalls : searchCalls gateway connection query
      = gateway.opening :: ((finding connection base filter query).calls ++ [.unbind]) := by
    rw [searchCalls, h, hconnect]
  have houtcome : searchOutcome scene gateway connection query
      = (released scene base connection.unbindFailure).bind fun _ =>
          (finding connection base filter query).settled scene := by
    rw [searchOutcome, h, hconnect]
    rfl
  rw [← hcalls, ← houtcome]
  exact search_conduct gateway connection query

end Prepared

/-- A search that cannot be prepared fails before anybody is called. -/
theorem search_unprepared (scene : Scene) {gateway : DirectoryGateway} (connection : Connection)
    {query : Query} {failure : Failure} (h : gateway.prepare query = .error failure) :
    Course scene (gateway.search connection query) (.error failure) [] [] := by
  have hsearch : Conduct scene (gateway.search connection query) _ _ _ :=
    search_conduct gateway connection query
  unfold searchOutcome searchCalls searchWarnings at hsearch
  rw [h] at hsearch
  exact hsearch.course

/-- A connection that is not obtained fails the search, and nothing follows. -/
theorem search_refused (scene : Scene) {gateway : DirectoryGateway} {connection : Connection}
    {query : Query} {filter : String} {base : Value}
    (h : gateway.prepare query = .ok (filter, base)) (hconnect : connection.connectFailure ≠ none) :
    ∃ failure, ∀ unbind, ∃ lines, Course scene
      (gateway.search { connection with unbindFailure := unbind } query) (.error failure)
      [gateway.opening] lines := by
  obtain ⟨failure, hfailure⟩ := exists_connected_eq_error scene base hconnect
  refine ⟨failure, fun unbind => ?_⟩
  have hsearch : Conduct scene
      (gateway.search { connection with unbindFailure := unbind } query) _ _ _ :=
    search_conduct_refused h hconnect hfailure
  exact ⟨_, hsearch.course⟩

/-- A search over a connection that is obtained: what is found on the connection is the outcome
unless the release fails, and neither depends on the other. -/
theorem search_obtained (scene : Scene) {gateway : DirectoryGateway} {connection : Connection}
    {query : Query} {filter : String} {base : Value}
    (h : gateway.prepare query = .ok (filter, base)) (hconnect : connection.connectFailure = none) :
    ∃ (found : Except Failure TextSet) (calls : List Call),
      Visit gateway.opening connection calls ∧ ∀ unbind, ∃ lines, Course scene
        (gateway.search { connection with unbindFailure := unbind } query)
        ((released scene base unbind).bind fun _ => found) calls lines := by
  refine ⟨(finding connection base filter query).settled scene,
    gateway.opening :: ((finding connection base filter query).calls ++ [.unbind]),
    ?_, fun unbind => ?_⟩
  · rcases calls_finding connection base filter query with hidle | ⟨s, hsearched⟩
    · rw [hidle]
      exact .idle hconnect
    · rw [hsearched]
      exact .searched hconnect ..
  · -- What is found does not depend on the release, so it is that of the connection.
    have hsearch : Conduct scene
        (gateway.search { connection with unbindFailure := unbind } query) _ _ _ :=
      search_conduct_obtained h hconnect
    exact ⟨_, hsearch.course⟩

/-- A search makes the calls of one connection if it can be prepared, and none if it cannot. -/
theorem search_makes (scene : Scene) (gateway : DirectoryGateway) (connection : Connection)
    (query : Query) :
    ∃ calls, Makes scene (gateway.search connection query) calls ∧
      ((∃ prepared, gateway.prepare query = .ok prepared) →
        Visit gateway.opening connection calls) ∧
      ((¬ ∃ prepared, gateway.prepare query = .ok prepared) → calls = []) := by
  cases hprepared : gateway.prepare query with
  | error failure =>
    exact ⟨[], ⟨_, _, search_unprepared scene connection hprepared⟩, by simp, by simp⟩
  | ok prepared =>
    by_cases hconnect : connection.connectFailure = none
    · obtain ⟨found, calls, hvisit, hcourse⟩ := search_obtained scene hprepared hconnect
      obtain ⟨lines, hcourse⟩ := hcourse connection.unbindFailure
      exact ⟨calls, ⟨_, _, hcourse⟩, fun _ => hvisit, by simp⟩
    · obtain ⟨failure, hcourse⟩ := search_refused scene hprepared hconnect
      obtain ⟨lines, hcourse⟩ := hcourse connection.unbindFailure
      exact ⟨_, ⟨_, _, hcourse⟩, fun _ => .refused hconnect, by simp⟩

end DirectoryGateway

end GrantedRoles
