import GrantedRoles.Proofs.Directory.Search
import GrantedRoles.Proofs.Directory.Warnings
import GrantedRoles.Proofs.SearchFilter.Refusal
import Mathlib.Data.List.Basic

/-!
# How a directory search ends

A search for texts over a connection whose calls fail at most with what the directory reports ends
in one of six ways, of which two have a variant for answers that hold a value without a text
(`Ends`). `search_ends` says that it ends in one of them, whatever the texts, the connection, the
logging and the context are: with its outcome, its calls and its warnings. It fails only as a failed
search exactly if its filter does not stumble and everything has a text that the search reads or
quotes.
-/

set_option autoImplicit false

namespace GrantedRoles

open Log SearchFilter

/-- What one connection answers: what the directory reports when it is opened, searched and
released, the result of the search and the response to it, both of which may be absent. -/
structure Dialogue where
  opening : Option DirectoryFault := none
  searching : Option DirectoryFault := none
  releasing : Option DirectoryFault := none
  result : Option (Assoc Value) := some [("result", .int 0), ("description", .text "success")]
  response : Option (List Entry) := some []

namespace Dialogue

/-- The connection that answers so. -/
def connection (dialogue : Dialogue) : Connection where
  connectFailure := dialogue.opening.map .directory
  searchFailure := dialogue.searching.map .directory
  unbindFailure := dialogue.releasing.map .directory
  result := (dialogue.result.map .dict).getD .null
  entries := dialogue.response.getD []

/-- The code of the result, if there is one. -/
def code? (dialogue : Dialogue) : Option Value :=
  dialogue.result.bind fun fields => Assoc.get? fields Connection.codeKey

/-- The description of the result, null if there is none. -/
def description (dialogue : Dialogue) : Value :=
  (dialogue.result.bind fun fields => Assoc.get? fields Connection.descriptionKey).getD .null

/-- The values that the response gives an attribute. -/
def Gives (dialogue : Dialogue) (wanted : String) (s : String) : Prop :=
  ∃ response, dialogue.response = some response ∧
    ∃ entry ∈ response, ∃ v, entry.Gives wanted v ∧ valueText v = s

theorem verdict_connection (dialogue : Dialogue) :
    Connection.verdict dialogue.connection.result
      = .ok (dialogue.code?.elim .unknown fun code =>
          if code.isZero then .success else .refused code dialogue.description) := by
  unfold connection code? description
  cases dialogue.result with
  | none => rfl
  | some fields =>
    cases fields with
    | nil => rfl
    | cons entry rest =>
      -- A dictionary that holds something is judged by the code in it.
      simp only [Option.map_some, Option.getD_some, Option.bind_some, Connection.verdict,
        Value.isTruthy]
      cases Assoc.get? (entry :: rest) Connection.codeKey with
      | none => rfl
      | some code => by_cases hzero : code.isZero = true <;> simp [hzero]

theorem exists_collect_connection {dialogue : Dialogue} {wanted : String}
    (h : Readable (dialogue.response.getD []) wanted) :
    ∃ found, collect dialogue.connection.entries (.text wanted) = .ok found ∧
      ∀ s, s ∈ found ↔ dialogue.Gives wanted s := by
  obtain ⟨found, hfound, hmem⟩ := exists_collect h
  refine ⟨found, hfound, fun s => (hmem s).trans ?_⟩
  unfold Gives
  cases dialogue.response with
  | none => simp
  | some response => simp

/-- The directory answers the search, and what would have to be read or quoted of the answer has no
text: a value of the attribute, or the code or the description of a search that is refused. -/
def Unwritten (dialogue : Dialogue) (wanted : String) : Prop :=
  dialogue.opening = none ∧ dialogue.searching = none ∧ ∃ code, dialogue.code? = some code ∧
    if code.isZero then ¬ Readable (dialogue.response.getD []) wanted
    else ¬ (dialogue.description.isWritable = true ∧ code.isWritable = true)

end Dialogue

/-- A query of texts, in one of the scopes. -/
def Query.ofTexts (base template : String) (params : List String) (wanted : String)
    (scope : Scope) : Query where
  base := .text base
  template := .text template
  params := params.map .text
  wanted := .text wanted
  scope := .scope scope

namespace DirectoryGateway

/-- The warning that a connection cannot be released, if it cannot. -/
def releaseWarnings (dialogue : Dialogue) (base : String) : List Note :=
  dialogue.releasing.toList.map fun fault =>
    warning unbindFailed [("base", .text base), ("error", .text fault.message)]

/-- How a search below a base ends, by its rendered filter: the outcome, the calls and the warnings.
The first rule is for a filter that does not render, the last two for a search that is answered with
a code that is zero. -/
inductive Ends (opening : Call) (dialogue : Dialogue) (base : String) (scope : Scope)
    (wanted : String) :
    Except Failure String → Except Failure TextSet → List Call → List Note → Prop
  | unrendered (failure : Failure) :
      Ends opening dialogue base scope wanted (.error failure) (.error failure) [] []
  | unconnected (filter : String) {fault : DirectoryFault} (hopen : dialogue.opening = some fault) :
      Ends opening dialogue base scope wanted (.ok filter)
        (.error (.search (.noConnection fault)))
        [opening]
        [warning searchFailed [("base", .text base), ("error", .text fault.message)]]
  | interrupted (filter : String) {fault : DirectoryFault} (hopen : dialogue.opening = none)
      (hsearch : dialogue.searching = some fault) :
      Ends opening dialogue base scope wanted (.ok filter)
        (.error (.search (.interrupted (.text base) filter fault)))
        [opening, .search (.text base) filter scope (.text wanted), .unbind]
        (warning searchFailed
          [("base", .text base), ("filter", .text filter), ("error", .text fault.message)]
          :: releaseWarnings dialogue base)
  | unanswered (filter : String) (hopen : dialogue.opening = none)
      (hsearch : dialogue.searching = none) (hcode : dialogue.code? = none) :
      Ends opening dialogue base scope wanted (.ok filter)
        (.error (.search (.noResult (.text base) filter)))
        [opening, .search (.text base) filter scope (.text wanted), .unbind]
        (warning searchFailed
          [("base", .text base), ("filter", .text filter), ("result", .null)]
          :: releaseWarnings dialogue base)
  | refused (filter : String) {code : Value} (hopen : dialogue.opening = none)
      (hsearch : dialogue.searching = none) (hcode : dialogue.code? = some code)
      (hrefused : code.isZero = false)
      (htexts : dialogue.description.isWritable = true ∧ code.isWritable = true) :
      Ends opening dialogue base scope wanted (.ok filter)
        (.error (.search (.refused (.text base) filter dialogue.description code)))
        [opening, .search (.text base) filter scope (.text wanted), .unbind]
        (warning searchFailed
          [("base", .text base), ("filter", .text filter), ("result", code),
            ("description", dialogue.description)]
          :: releaseWarnings dialogue base)
  | unquotable (filter : String) {code : Value} (hopen : dialogue.opening = none)
      (hsearch : dialogue.searching = none) (hcode : dialogue.code? = some code)
      (hrefused : code.isZero = false)
      (htextless : ¬ (dialogue.description.isWritable = true ∧ code.isWritable = true)) :
      Ends opening dialogue base scope wanted (.ok filter)
        (.error .unwritable)
        [opening, .search (.text base) filter scope (.text wanted), .unbind]
        (warning searchFailed
          [("base", .text base), ("filter", .text filter), ("result", code),
            ("description", dialogue.description)]
          :: releaseWarnings dialogue base)
  | found (filter : String) {code : Value} {values : TextSet} (hopen : dialogue.opening = none)
      (hsearch : dialogue.searching = none) (hcode : dialogue.code? = some code)
      (hzero : code.isZero = true) (hreadable : Readable (dialogue.response.getD []) wanted)
      (hvalues : ∀ s, s ∈ values ↔ dialogue.Gives wanted s) :
      Ends opening dialogue base scope wanted (.ok filter)
        (.ok values)
        [opening, .search (.text base) filter scope (.text wanted), .unbind]
        (releaseWarnings dialogue base)
  | unreadable (filter : String) {code : Value} (hopen : dialogue.opening = none)
      (hsearch : dialogue.searching = none) (hcode : dialogue.code? = some code)
      (hzero : code.isZero = true)
      (htextless : ¬ Readable (dialogue.response.getD []) wanted) :
      Ends opening dialogue base scope wanted (.ok filter)
        (.error .unwritable)
        [opening, .search (.text base) filter scope (.text wanted), .unbind]
        (releaseWarnings dialogue base)

variable {scene : Scene} {opening : Call} {dialogue : Dialogue} {base : String} {scope : Scope}
  {wanted : String} {rendered : Except Failure String} {outcome : Except Failure TextSet}
  {calls : List Call} {warnings : List Note}

/-- Once a filter is rendered, whatever comes of the search is a failed search unless a text is
missing, and what the directory reported when the connection was opened or searched is its cause. -/
theorem Ends.failure_of_rendered {filter : String} {failure : Failure}
    (h : Ends opening dialogue base scope wanted (.ok filter) outcome calls warnings)
    (hfailure : outcome = .error failure) :
    (IsSearchFailure failure ↔ ¬ dialogue.Unwritten wanted) ∧
      failure.cause? = (dialogue.opening.or dialogue.searching).map .directory := by
  cases h with
  | unconnected _ hopen =>
    cases hfailure
    exact ⟨iff_of_true trivial (by simp [Dialogue.Unwritten, hopen]),
      by simp [Failure.cause?, hopen]⟩
  | interrupted _ hopen hsearch =>
    cases hfailure
    exact ⟨iff_of_true trivial (by simp [Dialogue.Unwritten, hsearch]),
      by simp [Failure.cause?, hopen, hsearch]⟩
  | unanswered _ hopen hsearch hcode =>
    cases hfailure
    exact ⟨iff_of_true trivial (by simp [Dialogue.Unwritten, hcode]),
      by simp [Failure.cause?, hopen, hsearch]⟩
  | refused _ hopen hsearch hcode hrefused htexts =>
    cases hfailure
    exact ⟨iff_of_true trivial (by simp [Dialogue.Unwritten, hcode, hrefused, htexts]),
      by simp [Failure.cause?, hopen, hsearch]⟩
  | unquotable _ hopen hsearch hcode hrefused htextless =>
    cases hfailure
    refine ⟨iff_of_false id (not_not.2 ⟨hopen, hsearch, _, hcode, ?_⟩),
      by simp [Failure.unwritable, Failure.cause?, hopen, hsearch]⟩
    rwa [hrefused, if_neg Bool.false_ne_true]
  | found => cases hfailure
  | unreadable _ hopen hsearch hcode hzero htextless =>
    cases hfailure
    refine ⟨iff_of_false id (not_not.2 ⟨hopen, hsearch, _, hcode, ?_⟩),
      by simp [Failure.unwritable, Failure.cause?, hopen, hsearch]⟩
    rwa [if_pos hzero]

/-- Where a text is missing, the search fails. -/
theorem Ends.exists_failure_of_unwritten {filter : String}
    (h : Ends opening dialogue base scope wanted (.ok filter) outcome calls warnings)
    (hunwritten : dialogue.Unwritten wanted) : ∃ failure, outcome = .error failure := by
  obtain ⟨-, -, code, hcode, hmissing⟩ := hunwritten
  cases h with
  | found _ _ _ hcode' hzero hreadable =>
    rw [hcode] at hcode'
    cases hcode'
    rw [if_pos hzero] at hmissing
    exact absurd hreadable hmissing
  | _ => exact ⟨_, rfl⟩

/-- A search fails with something else than a failed search exactly if its filter stumbles, or a
text is missing of what the directory answers. -/
theorem Ends.isSearchFailure_iff {template : String} {params : List String}
    (h : Ends opening dialogue base scope wanted
      (render (.text template) (params.map .text)) outcome calls warnings) :
    (∀ failure, outcome = .error failure → IsSearchFailure failure) ↔
      ¬ Stumbles template.toList ∧
        ¬ ((∃ filter, render (.text template) (params.map .text) = .ok filter) ∧
          dialogue.Unwritten wanted) := by
  constructor
  · intro hsearch
    constructor
    · intro hstumbles
      obtain ⟨fault, hread⟩ := readText_eq_value_iff.2 hstumbles
      rw [render_of_readText_error hread] at h
      cases h
      exact hsearch _ rfl
    · rintro ⟨⟨filter, hrender⟩, hunwritten⟩
      rw [hrender] at h
      obtain ⟨failure, hfailure⟩ := h.exists_failure_of_unwritten hunwritten
      exact (h.failure_of_rendered hfailure).1.1 (hsearch failure hfailure) hunwritten
  · rintro ⟨hsteady, hwritten⟩ failure hfailure
    cases hrender : render (.text template) (params.map .text) with
    | ok filter =>
      rw [hrender] at h
      exact (h.failure_of_rendered hfailure).1.2 fun hunwritten =>
        hwritten ⟨⟨filter, hrender⟩, hunwritten⟩
    | error other =>
      rw [hrender] at h
      cases h
      cases hfailure
      rcases render_eq_error hrender with hread | hsearch
      · exact isSearchFailure_of_readText hread hsteady
      · exact hsearch

/-! ## Every search ends so -/

theorem reports_releasing (dialogue : Dialogue) (base : String) :
    reports unbindFailed [("base", .text base)] dialogue.connection.unbindFailure
      = releaseWarnings dialogue base := by
  unfold Dialogue.connection releaseWarnings
  cases dialogue.releasing <;> rfl

/-- The warning of a release is the last of a search. -/
theorem released_bind_settled (scene : Scene) (dialogue : Dialogue) (base : String)
    (finding : Finding) :
    ((released scene (.text base) dialogue.connection.unbindFailure).bind fun _ =>
        finding.settled scene)
      = settle scene (finding.warnings ++ releaseWarnings dialogue base) finding.outcome := by
  have hdone : unreleased? dialogue.connection.unbindFailure = .ok () := by
    unfold Dialogue.connection
    cases dialogue.releasing <;> rfl
  rw [released, reports_releasing, hdone, settle_bind, settle_append]
  rfl

/-- What using an open connection comes to ends a search for texts. -/
theorem ends_of_finding (opening : Call) (dialogue : Dialogue) (base : String) {query : Query}
    (filter : String) (hopen : dialogue.opening = none) (hscope : query.scope = .scope scope)
    (hwanted : query.wanted = .text wanted) :
    Ends opening dialogue base scope wanted (.ok filter)
      (finding dialogue.connection (.text base) filter query).outcome
      (opening :: ((finding dialogue.connection (.text base) filter query).calls ++ [.unbind]))
      ((finding dialogue.connection (.text base) filter query).warnings
        ++ releaseWarnings dialogue base) := by
  have hfailure : dialogue.connection.searchFailure = dialogue.searching.map .directory := rfl
  rw [finding, hscope, scopeOf_scope, hfailure, hwanted]
  cases hsearch : dialogue.searching with
  | some fault => exact .interrupted filter hopen hsearch
  | none =>
    simp only [Option.map_none, answered, dialogue.verdict_connection]
    cases hcode : dialogue.code? with
    | none => exact .unanswered filter hopen hsearch hcode
    | some code =>
      cases hzero : code.isZero with
      | false =>
        simp only [Option.elim_some, hzero, Bool.false_eq_true, if_false]
        by_cases htexts : dialogue.description.isWritable = true ∧ code.isWritable = true
        · have hquote (failure : Failure) :
              Failure.quoting [.text base, dialogue.description, code] failure = failure := by
            simp [Failure.quoting, htexts]
          rw [hquote]
          exact .refused filter hopen hsearch hcode hzero htexts
        · have hquote (failure : Failure) :
              Failure.quoting [.text base, dialogue.description, code] failure = .unwritable := by
            rw [Failure.quoting, if_neg (by simpa using htexts)]
          rw [hquote]
          exact .unquotable filter hopen hsearch hcode hzero htexts
      | true =>
        simp only [Option.elim_some, hzero, if_true]
        by_cases hreadable : Readable (dialogue.response.getD []) wanted
        · obtain ⟨values, hcollect, hvalues⟩ := Dialogue.exists_collect_connection hreadable
          rw [hcollect]
          exact .found filter hopen hsearch hcode hzero hreadable hvalues
        · have hcollect : collect dialogue.connection.entries (.text wanted)
              = .error .unwritable := collect_of_not_readable hreadable
          rw [hcollect]
          exact .unreadable filter hopen hsearch hcode hzero hreadable

/-- A search for texts has the outcome, the calls and the warnings of one of the ways to end. -/
theorem exists_ends (scene : Scene) (root : String) (opening : Call) (dialogue : Dialogue)
    (base template : String) (params : List String) (wanted : String) (scope : Scope) :
    ∃ outcome, Ends opening dialogue (below root base) scope wanted
        (render (.text template) (params.map .text)) outcome
        (searchCalls ⟨.text root, opening⟩ dialogue.connection
          (.ofTexts base template params wanted scope))
        (searchWarnings ⟨.text root, opening⟩ dialogue.connection
          (.ofTexts base template params wanted scope)) ∧
      searchOutcome scene ⟨.text root, opening⟩ dialogue.connection
          (.ofTexts base template params wanted scope)
        = settle scene (searchWarnings ⟨.text root, opening⟩ dialogue.connection
            (.ofTexts base template params wanted scope)) outcome := by
  have hbase : (Query.ofTexts base template params wanted scope).base = .text base := rfl
  have hprepared := prepare_text root opening hbase
  have hrender : render (Query.ofTexts base template params wanted scope).template
      (Query.ofTexts base template params wanted scope).params
      = render (.text template) (params.map .text) := rfl
  rw [hrender] at hprepared
  unfold searchCalls searchWarnings searchOutcome
  have hconnect : dialogue.connection.connectFailure = dialogue.opening.map .directory := rfl
  rw [hprepared, hconnect]
  -- A template that does not render ends the search before the connection is opened.
  cases render (.text template) (params.map .text) with
  | error failure => exact ⟨.error failure, .unrendered failure, rfl⟩
  | ok filter =>
    cases hopen : dialogue.opening with
    | some fault =>
      refine ⟨_, .unconnected filter hopen, ?_⟩
      change (connected scene (.text (below root base)) (some (.directory fault))).bind _ = _
      rw [connected, settle_bind]
      rfl
    | none =>
      simp only [Option.map_none, Except.map, reports_releasing]
      exact ⟨_, ends_of_finding opening dialogue _ filter hopen rfl rfl,
        released_bind_settled scene dialogue _ _⟩

/-- What a search warns of, it says as the gateway's logger, about something that logging does not
read itself. -/
theorem Ends.warning_of_mem {note : Note}
    (h : Ends opening dialogue base scope wanted rendered outcome calls warnings)
    (hnote : note ∈ warnings) :
    note.logger = .gateway ∧ note.name = loggerName ∧ note.level = .warning ∧
      (¬ dialogue.Unwritten wanted → note.Plain) := by
  have hplain (event : String) {fields : List (String × Value)}
      (hfields : ¬ dialogue.Unwritten wanted →
        ∀ entry ∈ fields, entry.1 ∉ interpretedFields ∧ entry.2.isWritable = true) :
      (warning event fields).logger = .gateway ∧ (warning event fields).name = loggerName ∧
        (warning event fields).level = .warning ∧
        (¬ dialogue.Unwritten wanted → (warning event fields).Plain) :=
    ⟨rfl, rfl, rfl, fun hwritten => plain_warning event (hfields hwritten)⟩
  have hrelease (hmem : note ∈ releaseWarnings dialogue base) : note.logger = .gateway ∧
      note.name = loggerName ∧ note.level = .warning ∧
      (¬ dialogue.Unwritten wanted → note.Plain) := by
    obtain ⟨fault, -, rfl⟩ := List.mem_map.1 hmem
    exact hplain _ fun _ => by simp [interpretedFields, recordField, exceptionField]
  cases h with
  | unrendered => cases hnote
  | unconnected =>
    obtain rfl := List.mem_singleton.1 hnote
    exact hplain _ fun _ => by simp [interpretedFields, recordField, exceptionField]
  | found => exact hrelease hnote
  | unreadable => exact hrelease hnote
  | refused _ _ _ _ _ htexts =>
    rcases List.mem_cons.1 hnote with rfl | hmem
    · exact hplain _ fun _ => by simp [interpretedFields, recordField, exceptionField, htexts]
    · exact hrelease hmem
  | unquotable _ hopen hsearch hcode hrefused htextless =>
    rcases List.mem_cons.1 hnote with rfl | hmem
    · refine hplain _ fun hwritten => absurd ⟨hopen, hsearch, _, hcode, ?_⟩ hwritten
      rwa [hrefused, if_neg Bool.false_ne_true]
    · exact hrelease hmem
  | _ =>
    rcases List.mem_cons.1 hnote with rfl | hmem
    · exact hplain _ fun _ => by simp [interpretedFields, recordField, exceptionField]
    · exact hrelease hmem

/-- The warnings of a search that are taken are all written if they reach the threshold. -/
theorem Ends.written_warnings {service : Value}
    (h : Ends opening dialogue base scope wanted rendered outcome calls warnings)
    (hservice : scene.logging.serviceOf .gateway = some service)
    (hreached : scene.logging.thresholdOf loggerName ≤ Level.warning.severity)
    (htaken : ∀ note ∈ warnings, scene.reply note = .ok ()) :
    (scene.remarks warnings).filterMap scene.logging.written
      = warnings.map (·.line scene.context service) := by
  rw [Scene.remarks, List.filterMap_map, List.filterMap_eq_map_iff_forall_eq_some]
  intro note hnote
  obtain ⟨hlogger, hname, hlevel, -⟩ := h.warning_of_mem hnote
  exact Logging.outcome_snd_of_reply (hlogger ▸ hservice) (by rwa [hname, hlevel])
    (htaken note hnote)

/-- **How a directory search ends**, for all texts, every scope, every dialogue with the directory
and whatever was logged and bound before. It ends in one of the ways above, except that a warning
which is refused takes the place of its outcome. A failed search is its only failure exactly if the
filter does not stumble and no text is missing of what the directory answers; once the filter is
rendered the cause is what the directory reported. The lines are those of the warnings. Where the
gateway's logger takes warnings and no text is missing, all of them are taken; those that are taken
are all written if they reach the threshold. -/
theorem search_ends (root base template wanted : String) (params : List String) (scope : Scope)
    (opening : Call) (dialogue : Dialogue) (ambient : Ambient) :
    ∃ outcome calls warnings after,
      Ends opening dialogue (below root base) scope wanted
          (render (.text template) (params.map .text)) outcome calls warnings ∧
        ((∀ failure, outcome = .error failure → IsSearchFailure failure) ↔
          ¬ Stumbles template.toList ∧
            ¬ ((∃ filter, render (.text template) (params.map .text) = .ok filter) ∧
              dialogue.Unwritten wanted)) ∧
        (∀ filter failure, render (.text template) (params.map .text) = .ok filter →
          outcome = .error failure →
            failure.cause? = (dialogue.opening.or dialogue.searching).map .directory) ∧
        ((DirectoryGateway.mk (.text root) opening).search dialogue.connection
            (.ofTexts base template params wanted scope)).run ambient
          = (settle ambient.scene warnings outcome, after) ∧
        after.context = ambient.context ∧
        after.calls = ambient.calls ++ calls ∧
        after.lines
          = ambient.lines ++ (ambient.scene.remarks warnings).filterMap ambient.logging.written ∧
        (ambient.scene.Takes .gateway loggerName .warning → ¬ dialogue.Unwritten wanted →
          ∀ note ∈ warnings, ambient.scene.reply note = .ok ()) ∧
        ((∀ note ∈ warnings, ambient.scene.reply note = .ok ()) →
          settle ambient.scene warnings outcome = outcome ∧
          ∀ service, ambient.logging.serviceOf .gateway = some service →
            ambient.logging.thresholdOf loggerName ≤ Level.warning.severity →
              after.lines = ambient.lines ++ warnings.map (·.line ambient.context service)) := by
  obtain ⟨outcome, hends, houtcome⟩ :=
    exists_ends ambient.scene root opening dialogue base template params wanted scope
  obtain ⟨after, hrun, hshows, hcalls, hlines⟩ := (search_conduct ⟨.text root, opening⟩
    dialogue.connection (.ofTexts base template params wanted scope)).course ambient
      ambient.shows_scene
  refine ⟨outcome, _, _, after, hends, hends.isSearchFailure_iff, ?_, ?_, hshows.context, hcalls,
    hlines, ?_, ?_⟩
  · intro filter failure hfilter hfailure
    rw [hfilter] at hends
    exact (hends.failure_of_rendered hfailure).2
  · rw [hrun, houtcome]
  · intro htakes hwritten note hnote
    obtain ⟨hlogger, hname, hlevel, hplain⟩ := hends.warning_of_mem hnote
    refine Scene.reply_of_plain (hplain hwritten) ?_
    rwa [hlogger, hname, hlevel]
  · intro htaken
    refine ⟨settle_of_taken htaken outcome, ?_⟩
    intro service hservice hreached
    rw [hlines, hends.written_warnings hservice hreached htaken]
    rfl

/-- A search with a placeholder that is a superscript fails, and not as a failed search. -/
theorem search_stumbles_on_superscript :
    ∃ failure, ((DirectoryGateway.mk (.text "dc=x") .connect).search
        (Dialogue.connection {})
        (.ofTexts "ou=groups" "\x7b²\x7d" ["uid=ben"] "cn" .oneLevel)).run {} = (.error failure, {}) ∧
      ¬ IsSearchFailure failure := by
  refine ⟨.value (.notInteger (.text "²")), ?_, fun h => h⟩
  have hprepared : (DirectoryGateway.mk (.text "dc=x") .connect).prepare
      (.ofTexts "ou=groups" "\x7b²\x7d" ["uid=ben"] "cn" .oneLevel)
      = .error (.value (.notInteger (.text "²"))) := by
    cbv
  rw [search, hprepared]
  rfl

end DirectoryGateway

end GrantedRoles
