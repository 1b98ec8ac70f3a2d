import GrantedRoles.Proofs.Session.Logging
import GrantedRoles.Proofs.Undisturbed

/-!
# Lines of a resolution

Every line that a resolution writes says whose resolution it is. The user is bound over the
context of the caller for its whole length, and no call of the resolver or of the gateway has a
field that would hide the user, the level or the logger (`Note.Ordinary`). So each line shows the
user, its own call, and whatever else the caller has bound (`resolution_attributed`).
-/

set_option autoImplicit false

namespace GrantedRoles

open Log

/-! ## Lines with a user bound -/

namespace Log

/-- The fields of a line that say what was called, and the fields that a line does not show. -/
def callFields : List String := ["event", "level", "logger"] ++ hiddenFields

/-- The fields of a line that say whose it is. -/
def userFields : List String := [Context.userDnKey, Context.usernameKey]

/-- Names of fields that are different from each other, from those that logging reads itself and
from those that are set for a call. -/
def OwnNames (keys : List String) : Prop :=
  keys.Nodup ∧ ∀ key ∈ keys, key ∉ interpretedFields ++ (callFields ++ userFields)

instance (keys : List String) : Decidable (OwnNames keys) :=
  inferInstanceAs (Decidable (_ ∧ _))

/-- The event of a call is a text, and each of its fields has a name of its own. -/
structure Note.Ordinary (note : Note) : Prop where
  event : ∃ text, note.event = .text text
  fields : OwnNames (Assoc.keys note.fields)

/-- A line shows a call that was made for a user in the context of a caller: it names the user and
the call, has the fields of the call, and shows everything else that the caller has bound. What a
caller has bound in place of a record lends its name to the logger, if it has one. -/
structure Attributed (line : Line) (note : Note) (context : Context) (dn username : String) :
    Prop where
  userDn : Assoc.get? line Context.userDnKey = some (.text dn)
  username : Assoc.get? line Context.usernameKey = some (.text username)
  event : Assoc.get? line "event" = some note.event
  level : Assoc.get? line "level" = some (.text note.level.word)
  logger : Assoc.get? line "logger"
    = some (.text (((Assoc.get? context recordField).bind ownName?).getD (shownName note.name)))
  own : ∀ key value, Assoc.get? note.fields key = some value →
    Assoc.get? line key = some (loggable value)
  others : ∀ key value, Assoc.get? context key = some value → key ∉ callFields →
    key ∉ userFields → Assoc.get? note.fields key = none →
      Assoc.get? line key = some (loggable value)

namespace Note.Ordinary

variable {note : Note}

/-- What an ordinary call has under a name other than those that say what was called. -/
theorem get?_line (h : note.Ordinary) (context : Context) (service : Value) {key : String}
    (hkey : key ∉ callFields) :
    Assoc.get? (note.line context service) key
      = (((Assoc.get? note.fields key).or (Assoc.get? context key)).or
          (if key = "service" then some service else none)).map loggable := by
  obtain ⟨text, hevent⟩ := h.event
  simp only [callFields, List.mem_append, List.mem_cons, List.not_mem_nil, or_false,
    not_or] at hkey
  obtain ⟨⟨hkeyEvent, hlevel, hlogger⟩, hhidden⟩ := hkey
  have hpresent : note.event.isPresent = true := by
    rw [hevent]
    rfl
  rw [Note.get?_line _ _ _ hhidden, shown, if_neg hlogger, if_neg hlevel,
    get?_own h.fields.1 hpresent, if_neg hkeyEvent]

/-- A field that the call has is not one of those that are set for it. -/
theorem not_mem_of_get? (h : note.Ordinary) {key : String} {value : Value}
    (hvalue : Assoc.get? note.fields key = some value) : key ∉ callFields ++ userFields := by
  intro hmem
  have hnone : Assoc.get? note.fields key = none := by
    refine Assoc.get?_eq_none fun hkey => ?_
    exact h.fields.2 key hkey (List.mem_append_right _ hmem)
  rw [hnone] at hvalue
  cases hvalue

theorem uninterpreted (h : note.Ordinary) : note.Uninterpreted where
  event := h.event
  names := fun _ hentry hread =>
    h.fields.2 _ (List.mem_map_of_mem hentry) (List.mem_append_left _ hread)

theorem attributed (h : note.Ordinary) (context : Context) (dn username : String)
    (service : Value) :
    Attributed (note.line (context.enter (.text dn) (.text username)).1 service) note context dn
      username := by
  obtain ⟨text, hevent⟩ := h.event
  -- The call itself never has the two fields of a user.
  have huser (key : String) (hkey : key ∈ userFields) : Assoc.get? note.fields key = none := by
    cases hfield : Assoc.get? note.fields key with
    | none => rfl
    | some value => exact absurd (List.mem_append_right _ hkey) (h.not_mem_of_get? hfield)
  refine ⟨?_, ?_, ?_, ?_, ?_, ?_, ?_⟩
  · rw [h.get?_line _ _ (by decide), huser _ (by decide), Context.get?_enter]
    rfl
  · rw [h.get?_line _ _ (by decide), huser _ (by decide), Context.get?_enter]
    rfl
  · have hpresent : note.event.isPresent = true := by
      rw [hevent]
      rfl
    rw [Note.get?_line _ _ _ (by decide), shown, get?_own h.fields.1 hpresent, hevent]
    rfl
  · rw [Note.get?_line _ _ _ (by decide)]
    rfl
  · rw [Note.get?_line _ _ _ (by decide), shown, if_pos rfl, shownLogger,
      h.uninterpreted.get?_merged _ (by decide), Context.get?_enter, if_neg (by decide),
      if_neg (by decide)]
    rfl
  · intro key value hvalue
    have hfree := h.not_mem_of_get? hvalue
    rw [List.mem_append, not_or] at hfree
    rw [h.get?_line _ _ hfree.1, hvalue]
    rfl
  · intro key value hvalue hcall hkeys hnone
    have hbound : Assoc.get? (context.enter (.text dn) (.text username)).1 key = some value := by
      simp only [userFields, List.mem_cons, List.not_mem_nil, or_false, not_or] at hkeys
      rw [Context.get?_enter, if_neg hkeys.2, if_neg hkeys.1, hvalue]
    rw [h.get?_line _ _ hcall, hnone, hbound]
    rfl

/-- In a harmless context such a call can be written, for a service with a name that can, if its own
fields can. -/
theorem faultless (h : note.Ordinary) (hwritable : ∀ entry ∈ note.fields, entry.2.isWritable = true)
    {context : Context} (hcontext : Context.Harmless context) (dn username : String)
    {service : Value} (hservice : service.isWritable = true) :
    note.lineFault? (context.enter (.text dn) (.text username)).1 service = none :=
  ((hcontext.enter dn username).faultless ⟨h.uninterpreted, hwritable⟩ hservice).2

end Note.Ordinary

end Log

/-! ## The calls of a resolution -/

/-- An ordinary call of the resolver's logger or of the directory gateway's. -/
structure Log.Note.OfResolution (note : Note) : Prop where
  ordinary : note.Ordinary
  made : note.logger = .resolver ∧ note.name = Resolver.loggerName ∨
    note.logger = .gateway ∧ note.name = DirectoryGateway.loggerName

theorem Resolver.ofResolution_noted (level : Level) (event : String)
    {fields : List (String × Value)} (names : List String) (hnames : Assoc.keys fields = names)
    (h : OwnNames names) : (noted level event fields).OfResolution :=
  ⟨⟨⟨event, rfl⟩, hnames ▸ h⟩, Or.inl ⟨rfl, rfl⟩⟩

namespace DirectoryGateway

theorem ofResolution_warning (event : String) {fields : List (String × Value)}
    (names : List String) (hnames : Assoc.keys fields = names) (h : OwnNames names) :
    (warning event fields).OfResolution :=
  ⟨⟨⟨event, rfl⟩, hnames ▸ h⟩, Or.inr ⟨rfl, rfl⟩⟩

theorem ofResolution_reports (event : String) {about : List (String × Value)}
    (names : List String) (hnames : Assoc.keys about = names) (h : OwnNames (names ++ ["error"]))
    (failure : Option Failure) : ∀ note ∈ reports event about failure, note.OfResolution := by
  intro note hnote
  unfold reports at hnote
  split at hnote
  · rw [List.mem_singleton.1 hnote]
    refine ofResolution_warning event _ ?_ h
    rw [Assoc.keys, List.map_append]
    exact congrArg (· ++ ["error"]) hnames
  · cases hnote

theorem ofResolution_answered (connection : Connection) (base : Value) (filter : String)
    (wanted : Value) :
    ∀ note ∈ (answered connection base filter wanted).warnings, note.OfResolution := by
  intro note hnote
  unfold answered at hnote
  dsimp only at hnote
  split at hnote
  · cases hnote
  · rw [List.mem_singleton.1 hnote]
    exact ofResolution_warning _ ["base", "filter", "result"] rfl (by decide)
  · rw [List.mem_singleton.1 hnote]
    exact ofResolution_warning _ ["base", "filter", "result", "description"] rfl (by decide)
  · cases hnote

theorem ofResolution_finding (connection : Connection) (base : Value) (filter : String)
    (query : Query) :
    ∀ note ∈ (finding connection base filter query).warnings, note.OfResolution := by
  intro note hnote
  unfold finding at hnote
  dsimp only at hnote
  split at hnote
  · cases hnote
  · split at hnote
    · next fault _ =>
      change note ∈ reports searchFailed _ (some (.directory fault)) at hnote
      exact ofResolution_reports _ ["base", "filter"] rfl (by decide) _ note hnote
    · cases hnote
    · exact ofResolution_answered connection base filter query.wanted note hnote

theorem ofResolution_searchWarnings (gateway : DirectoryGateway) (connection : Connection)
    (query : Query) : ∀ note ∈ gateway.searchWarnings connection query, note.OfResolution := by
  intro note hnote
  unfold searchWarnings at hnote
  split at hnote
  · cases hnote
  · exact ofResolution_reports _ ["base"] rfl (by decide) _ note hnote
  · rcases List.mem_append.1 hnote with hfinding | hrelease
    · exact ofResolution_finding connection _ _ query note hfinding
    · exact ofResolution_reports _ ["base"] rfl (by decide) _ note hrelease

end DirectoryGateway

theorem GatewayChoice.ofResolution_warnings (choice : GatewayChoice) (connection : Connection)
    (query : Query) : ∀ note ∈ choice.warnings connection query, note.OfResolution := by
  cases choice with
  | directory gateway => exact gateway.ofResolution_searchWarnings connection query
  | memory gateway => simp [warnings]

namespace Populator

theorem ofResolution_groupNotes (populator : Populator) (scene : Scene) (connection : Connection)
    (user : User) :
    ∀ note ∈ populator.groupNotes scene connection user, note.OfResolution := by
  intro note hnote
  unfold groupNotes at hnote
  dsimp only at hnote
  split at hnote
  · rcases List.mem_cons.1 hnote with rfl | hnote
    · exact Resolver.ofResolution_noted _ _ ["filter", "search_base", "scope"] rfl (by decide)
    split at hnote
    · rcases List.mem_append.1 hnote with hwarning | hfound
      · exact populator.gateway.ofResolution_warnings connection _ note hwarning
      · split at hfound
        · rw [List.mem_singleton.1 hfound]
          exact Resolver.ofResolution_noted _ _ ["roles"] rfl (by decide)
        · cases hfound
    · cases hnote
  · cases hnote

theorem ofResolution_resolveNotes (populator : Populator) (scene : Scene)
    (connection : Connection) (user : User) :
    ∀ note ∈ populator.resolveNotes scene connection user, note.OfResolution := by
  intro note hnote
  unfold resolveNotes at hnote
  rcases List.mem_cons.1 hnote with rfl | hnote
  · exact Resolver.ofResolution_noted _ _ [] rfl (by decide)
  · split at hnote
    · exact populator.ofResolution_groupNotes scene connection user note hnote
    · cases hnote

end Populator

/-! ## Resolutions in a session -/

namespace Session

/-- The calls of loggers that a resolution makes, in order, if there is a populator. -/
def resolutionNotes (session : Session) (connection : Option Connection) (user : User) :
    List Note :=
  session.populator.elim [] fun populator =>
    populator.resolveNotes (session.ambient.scene.withUser user.dn user.username)
      (connection.getD session.connection) user

theorem ofResolution_resolutionNotes (session : Session) (connection : Option Connection)
    (user : User) : ∀ note ∈ session.resolutionNotes connection user, note.OfResolution := by
  intro note hnote
  unfold resolutionNotes at hnote
  cases hpopulator : session.populator with
  | none =>
    rw [hpopulator] at hnote
    cases hnote
  | some populator =>
    rw [hpopulator] at hnote
    exact populator.ofResolution_resolveNotes _ _ user note hnote

/-- The lines of a resolution are those of its calls, each with the user bound. -/
theorem lines_resolve (session : Session) (connection : Option Connection) (user : User) :
    (session.step { action := .resolve user, connection }).1.lines
      = (session.resolutionNotes connection user).filterMap fun note => session.logging.written
        ⟨(session.context.enter (.text user.dn) (.text user.username)).1, note⟩ := by
  let s : SessionStep := { action := .resolve user, connection }
  have hleaves : s.action.LeavesLoggers := trivial
  have hlines : (session.step s).1.lines = (Scene.remarks _ _).filterMap session.logging.written :=
    (session.step_reports hleaves).1
  rw [hlines, Scene.remarks, List.filterMap_map]
  rfl

/-- **The lines of a resolution are its user's.** In every session, whatever the caller has bound
and however the resolution ends, its lines come from calls of the resolver's logger and of the
gateway's, in their order. A call is written if logging is configured, its level reaches the
threshold, its line can be written, and no handler is on the way to the root; its line can be
written if the fields of the call, the name of the service and whatever the caller has bound can. It
names the user, shows the event, the level and the logger of the call and its fields, whatever else
is bound under their names, and shows everything else that the caller has bound: in the form a line
can hold, which for a value of such a form is the value itself. -/
theorem resolution_attributed (session : Session) (connection : Option Connection) (user : User) :
    let notes := session.resolutionNotes connection user
    let logging := session.logging
    let within := (session.context.enter (.text user.dn) (.text user.username)).1
    ∃ line? : Note → Option Line,
      (session.step { action := .resolve user, connection }).1.lines = notes.filterMap line? ∧
        (∀ note ∈ notes,
          (note.logger = .resolver ∧ note.name = Resolver.loggerName ∨
            note.logger = .gateway ∧ note.name = DirectoryGateway.loggerName) ∧
          ((∃ line, line? note = some line) ↔
            logging.isConfigured = true ∧
              logging.thresholdOf note.name ≤ note.level.severity ∧
              (∀ service, logging.serviceOf note.logger = some service →
                note.lineFault? within service = none) ∧
              logging.reachesRoot note.name = true) ∧
          (Context.Harmless session.context →
            (∀ entry ∈ note.fields, entry.2.isWritable = true) →
            ∀ service : Value, service.isWritable = true →
              note.lineFault? within service = none) ∧
          ∀ line, line? note = some line →
            Attributed line note session.context user.dn user.username) ∧
        ∀ value, isWritten value = true → loggable value = value := by
  intro notes logging within
  refine ⟨_, session.lines_resolve connection user, ?_, loggable_of_isWritten⟩
  intro note hnote
  obtain ⟨hordinary, hmade⟩ := session.ofResolution_resolutionNotes connection user note hnote
  refine ⟨hmade, ?_, ?_, ?_⟩
  · rw [logging.isConfigured_iff note.logger]
    exact logging.exists_outcome_snd_iff within note
  · intro hharmless hwritable service hservice
    exact hordinary.faultless hwritable hharmless user.dn user.username hservice
  · intro line hline
    obtain ⟨service, -, -, -, -, rfl⟩ := (logging.outcome_snd_eq_some_iff _ note line).1 hline
    exact hordinary.attributed session.context user.dn user.username service

/-- A caller has bound names that a resolution uses, and one of its own, and the search fails. Each
of the three lines names the user, and shows the caller's service and request. The warning of the
gateway shows its own filter, and the first line, which has none, that of the caller. -/
theorem resolution_attributed_colliding :
    let session : Session :=
      { logging := Logging.configuredAt "DEBUG"
        context := [("user_dn", .text "caller"), ("service", .text "own"),
          ("filter", .text "mine"), ("request", .text "7f")]
        connection := { searchFailure := some (.directory ⟨"LDAPSocketReceiveError", "gone"⟩) }
        populator := some
          ⟨.directory ⟨.text "dc=x", .connect⟩, { base := .text "ou=groups" }, {}⟩ }
    let user : User := ⟨"uid=ben,dc=x", "ben", []⟩
    let lines := (session.step { action := .resolve user }).1.lines
    let shown (key : String) := lines.map fun line => (Assoc.get? line key).bind Value.asText?
    lines.length = 3 ∧
      (∀ line ∈ lines, Assoc.get? line "user_dn" = some (.text user.dn) ∧
        Assoc.get? line "username" = some (.text user.username)) ∧
      shown "service" = [some "own", some "own", some "own"] ∧
      shown "request" = [some "7f", some "7f", some "7f"] ∧
      shown "filter" = [some "mine", some "(member=\x7b0\x7d)", some "(member=uid=ben,dc=x)"] := by
  intro session user lines shown
  obtain ⟨line?, hlines, hnotes, -⟩ := resolution_attributed session none user
  refine ⟨by decide +kernel, ?_, by decide +kernel, by decide +kernel, by decide +kernel⟩
  intro line hline
  have hwritten : line ∈ (session.resolutionNotes none user).filterMap line? := hlines ▸ hline
  obtain ⟨note, hnote, hnoteLine⟩ := List.mem_filterMap.1 hwritten
  have hattributed := (hnotes note hnote).2.2.2 line hnoteLine
  exact ⟨hattributed.userDn, hattributed.username⟩

end Session

end GrantedRoles
