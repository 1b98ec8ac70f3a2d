import GrantedRoles.Proofs.Session.Logging
import GrantedRoles.Proofs.Wiring

/-!
# The first configuration of a process

Before logging is configured for the first time nothing changes it (`Session.logging_runAll_fresh`).
Then any level text will do, except two: one that names no level stands for `INFO`, but the two name
something else. With one of these the first configuration fails half-way: its handlers are there
and the threshold is never set again, while no line can be written yet (`Logging.IsHalfway`). So
does the creation of a populator from settings that carry such a text, which are accepted
(`Session.first_configuration`).
-/

set_option autoImplicit false

namespace GrantedRoles

open Log Text

/-! ## Level texts -/

namespace Log

/-- The texts in upper case that name something other than a level. -/
def unusableLevels : List String := ["BASIC_FORMAT", "_STYLES"]

/-- The threshold of the level that a text names without regard to case, or else that of `INFO`. -/
def severityOf (level : String) : Int :=
  (namedThresholds.lookup (upper level)).getD Level.info.severity

theorem threshold_of_usable {level : String} (h : upper level ∉ unusableLevels) :
    threshold level = .ok (severityOf level) := by
  simp only [unusableLevels, List.mem_cons, List.not_mem_nil, or_false, not_or] at h
  unfold threshold severityOf
  dsimp only
  cases namedThresholds.lookup (upper level) with
  | some severity => rfl
  | none => simp [h]

theorem exists_threshold_eq_error {level : String} (h : upper level ∈ unusableLevels) :
    ∃ failure, threshold level = .error failure := by
  simp only [unusableLevels, List.mem_cons, List.not_mem_nil, or_false] at h
  unfold threshold
  rcases h with h | h
  · rw [h]
    exact ⟨_, rfl⟩
  · rw [h]
    exact ⟨_, rfl⟩

/-! ## Configuring for the first time -/

namespace Logging

/-- The root has its handlers, and no line can be written. -/
def IsHalfway (state : Logging) : Prop := state.threshold ≠ none ∧ state.service = none

/-- What the first configuration makes of logging: with a usable level, the service name and the
threshold of all loggers; else it leaves logging half-way. -/
structure FirstConfigured (service : Value) (level : String) (state : Logging) : Prop where
  usable : upper level ∉ unusableLevels →
    state.service = some service ∧ ∀ name, state.thresholdOf name = severityOf level
  halfway : state.IsHalfway ↔ upper level ∈ unusableLevels

theorem configure_usable (service : Value) {level : String} (h : upper level ∉ unusableLevels) :
    ({} : Logging).configure service (.text level)
      = (.ok (), { threshold := some (severityOf level), service := some service }) := by
  unfold configure
  simp only [Value.asText?, threshold_of_usable h]

theorem configure_unusable (service : Value) {level : String} (h : upper level ∈ unusableLevels) :
    ∃ failure, ({} : Logging).configure service (.text level)
      = (.error failure, { threshold := some initialThreshold }) := by
  obtain ⟨failure, hfailure⟩ := exists_threshold_eq_error h
  refine ⟨failure, ?_⟩
  unfold configure
  simp only [Value.asText?, hfailure]

theorem configure_first_eq_ok_iff (service : Value) (level : String) :
    (({} : Logging).configure service (.text level)).1 = .ok () ↔
      upper level ∉ unusableLevels := by
  by_cases h : upper level ∈ unusableLevels
  · obtain ⟨failure, hconfigure⟩ := configure_unusable service h
    rw [hconfigure]
    exact iff_of_false (by simp) (not_not_intro h)
  · rw [configure_usable service h]
    exact iff_of_true rfl h

/-- After the first configuration a call is refused only if its level reaches the threshold and its
line cannot be written. -/
theorem reply_configured (severity : Int) (service : Value) (context : Context) (note : Note) :
    reply { threshold := some severity, service := some service } context note = .ok () ↔
      note.level.severity < severity ∨ note.lineFault? context service = none := by
  have hthreshold : thresholdOf { threshold := some severity, service := some service } note.name
      = severity := thresholdOf_eq_root rfl note.name
  have hreaches : reachesRoot { threshold := some severity, service := some service } note.name
      = true := List.all_eq_true.2 fun _ _ => rfl
  have hpasses : passesRoot { threshold := some severity, service := some service } = true := rfl
  have hservice : serviceOf { threshold := some severity, service := some service } note.logger
      = some service := rfl
  rw [reply_eq_ok_iff]
  simp only [hservice, hthreshold, hreaches, hpasses, and_true]

theorem firstConfigured (service : Value) (level : String) :
    FirstConfigured service level (({} : Logging).configure service (.text level)).2 := by
  by_cases h : upper level ∈ unusableLevels
  · obtain ⟨failure, hconfigure⟩ := configure_unusable service h
    rw [hconfigure]
    exact ⟨fun husable => absurd h husable, iff_of_true ⟨Option.some_ne_none _, rfl⟩ h⟩
  · rw [configure_usable service h]
    refine ⟨fun _ => ⟨rfl, fun name => thresholdOf_eq_root rfl name⟩, iff_of_false ?_ h⟩
    rintro ⟨-, hservice⟩
    cases hservice

theorem FirstConfigured.of_alike {service : Value} {level : String} {state other : Logging}
    (h : FirstConfigured service level state) (halike : other.Alike state) :
    FirstConfigured service level other := by
  refine ⟨?_, ?_⟩
  · intro husable
    obtain ⟨hservice, hthreshold⟩ := h.usable husable
    exact ⟨halike.service.trans hservice,
      fun name => (halike.thresholdOf_eq name).trans (hthreshold name)⟩
  · rw [← h.halfway, IsHalfway, IsHalfway, halike.threshold, halike.service]

/-- Events that configure nothing leave logging unconfigured. -/
theorem afterAll_unconfigured {history : History}
    (h : ∀ event ∈ history, event.severity? = none ∧ event.service? = none) :
    ({} : Logging).afterAll history = {} := by
  induction history with
  | nil => rfl
  | cons event rest ih =>
    rw [List.forall_mem_cons] at h
    obtain ⟨⟨hlevel, hservice⟩, hrest⟩ := h
    have hevent : ({} : Logging).after event = {} := by
      cases event with
      | leveled severity => cases hlevel
      | labelled service => cases hservice
      | renewed logger => rfl
      | used logger => rfl
    change (({} : Logging).after event).afterAll rest = {}
    rw [hevent]
    exact ih hrest

end Logging

end Log

/-! ## Before the first configuration -/

theorem Answer.ofUnit_eq_done_iff {outcome : Except Failure Unit} :
    ofUnit outcome = .done ↔ outcome = .ok () := by
  cases outcome with
  | ok _ => exact iff_of_true rfl rfl
  | error failure => exact iff_of_false Answer.noConfusion (by simp)

namespace Session

variable {session : Session}

/-- A step configures logging, with a level that is a text: directly, or by creating a populator. -/
def Configures (session : Session) (s : SessionStep) : Prop :=
  match s.action with
  | .configure _ level => level.asText? ≠ none
  | .create arguments offer _ => session.accepted? arguments offer ≠ none
  | _ => False

/-- No step of a run configures logging. -/
def Fresh (session : Session) : List SessionStep → Prop
  | [] => True
  | s :: rest => ¬ session.Configures s ∧ (session.step s).2.Fresh rest

/-- Asking a logger at most uses it. -/
theorem eq_used_of_mem_askedUses {handle : String} {asked : Value} {method : String}
    {fields : Assoc Value} {event : LogEvent}
    (h : event ∈ session.askedUses handle asked method fields) : event = .used (.handle handle) := by
  unfold askedUses at h
  split at h
  · split at h
    · exact List.mem_singleton.1 h
    · cases h
  · cases h

/-- What another step does to logging before it says anything configures nothing. -/
theorem prepares_of_not_configures {s : SessionStep} (h : ¬ session.Configures s) :
    ∀ event ∈ session.prepares s, event.severity? = none ∧ event.service? = none := by
  obtain ⟨action, connection⟩ := s
  intro event hevent
  cases action with
  | configure service level =>
    have hnone : level.asText? = none := Decidable.not_not.1 h
    simp [prepares, Logging.configuring, hnone] at hevent
  | create arguments offer hooks =>
    simp only [prepares] at hevent
    cases haccepted : session.accepted? arguments offer with
    | none =>
      rw [haccepted] at hevent
      cases hevent
    | some accepted =>
      refine absurd ?_ h
      change session.accepted? arguments offer ≠ none
      rw [haccepted]
      exact Option.some_ne_none accepted
  | makeLogger handle name =>
    rw [List.mem_singleton.1 hevent]
    exact ⟨rfl, rfl⟩
  | log handle method said fields =>
    simp only [prepares] at hevent
    cases hasked : session.handles.get? handle with
    | none =>
      rw [hasked] at hevent
      cases hevent
    | some asked =>
      rw [hasked] at hevent
      rw [eq_used_of_mem_askedUses hevent]
      exact ⟨rfl, rfl⟩
  | _ => cases hevent

/-- Before a configuration, loggers have no member that would adjust them. -/
theorem logging_act_adjusting (session : Session) (hlogging : session.logging = {})
    (handle : String) {method : String} (hmethod : method ∈ Member.adjustingNames) (event : Value)
    (fields : Assoc Value) :
    (session.act (.log handle method event fields)).2.2.2.logging = {} := by
  obtain ⟨store, context, logging, handles, frames, connection, populator⟩ := session
  obtain rfl : logging = {} := hlogging
  simp only [act]
  cases handles.get? handle with
  | none => rfl
  | some asked =>
    simp only [Member.adjustingNames, List.mem_cons, List.not_mem_nil, or_false] at hmethod
    rcases hmethod with rfl | rfl | rfl <;> rfl

/-- A step that does not configure logging leaves it unconfigured. -/
theorem logging_step_fresh (hlogging : session.logging = {}) {s : SessionStep}
    (h : ¬ session.Configures s) : (session.step s).2.logging = {} := by
  -- What a step does to logging is known for steps that adjust no logger; the others are refused.
  by_cases hleaves : s.action.LeavesLoggers
  · rw [(session.step_reports hleaves).2, hlogging]
    refine Logging.afterAll_unconfigured fun event hevent => ?_
    rcases List.mem_append.1 hevent with hevent | hevent
    · exact prepares_of_not_configures h event hevent
    · obtain ⟨remark, -, rfl⟩ := List.mem_map.1 hevent
      exact ⟨rfl, rfl⟩
  · obtain ⟨action, connection⟩ := s
    cases action with
    | log handle method event fields =>
      have hmethod : method ∈ Member.adjustingNames := Decidable.not_not.1 hleaves
      exact logging_act_adjusting { session with connection := connection.getD session.connection }
        hlogging handle hmethod event fields
    | _ => exact absurd trivial hleaves

/-- So does a run of such steps. -/
theorem logging_runAll_fresh (hlogging : session.logging = {}) {steps : List SessionStep}
    (h : session.Fresh steps) : (session.runAll steps).2.logging = {} := by
  induction steps generalizing session with
  | nil => exact hlogging
  | cons s rest ih => exact ih (logging_step_fresh hlogging h.1) h.2

/-! ## The first configuration -/

/-- What configuring logging in a step comes to. -/
theorem step_configure {service level : Value} {outcome : Except Failure Unit} {after : Logging}
    (h : session.logging.configure service level = (outcome, after)) :
    let result := session.step { action := .configure service level }
    result.1.answer = .ofUnit outcome ∧ result.2.logging = after := by
  intro result
  have hrun : (Action.configureLogging service level).run session.ambient
      = (outcome, { session.ambient with logging := after }) :=
    congrArg (fun configured => (configured.1, { session.ambient with logging := configured.2 })) h
  constructor
  · change (session.performUnit (Action.configureLogging service level)).1 = _
    rw [performUnit_answer, hrun]
  · change (session.performUnit (Action.configureLogging service level)).2.2.2.logging = _
    unfold performUnit
    cases outcome with
    | ok _ => rw [perform_of_ok hrun, left]
    | error failure => rw [perform_of_error hrun, left]

/-- A configuration after one that was left half-way succeeds, and keeps the initial threshold. -/
theorem step_configure_halfway (hhalfway : session.logging = { threshold := some initialThreshold })
    (service : Value) (level : String) :
    let result := session.step { action := .configure service (.text level) }
    result.1.answer = .done ∧ ∀ name, result.2.logging.thresholdOf name = initialThreshold := by
  intro result
  have hconfigure : session.logging.configure service (.text level)
      = (.ok (), { threshold := some initialThreshold, service := some service }) := by
    rw [hhalfway]
    rfl
  obtain ⟨hdone, hafter⟩ := step_configure hconfigure
  refine ⟨hdone, fun name => ?_⟩
  rw [hafter]
  exact Logging.thresholdOf_eq_root rfl name

end Session

namespace Populator

/-- What the creation of a populator over a gateway makes of logging that was never configured. -/
theorem firstConfigured_create {settings : Settings} {level : String}
    (hlevel : settings.get .logLevel = .text level) (choice : GatewayChoice) (hooks : Hooks)
    {ambient : Ambient} (hfresh : ambient.logging = {}) :
    Logging.FirstConfigured (settings.get .serviceName) level
      ((create settings (some choice) hooks).run ambient).2.logging := by
  have hlogs := Session.create_logs settings (some choice) hooks ambient
  rw [hlogs.logging, hfresh, hlevel]
  exact (Logging.firstConfigured _ level).of_alike (Logging.touchAll_alike _ _)

variable {settings : Settings} {config : GroupSearch}

/-- If logging can be configured, creating a populator over a gateway succeeds unless the line about
an empty base is refused. -/
theorem exists_create_iff (hconfig : settings.groupSearch = .ok config) (choice : GatewayChoice)
    (hooks : Hooks) {ambient : Ambient}
    (hconfigured : (ambient.logging.configure (settings.get .serviceName)
      (settings.get .logLevel)).1 = .ok ()) :
    (∃ populator, ((create settings (some choice) hooks).run ambient).1 = .ok populator) ↔
      ∀ note ∈ emptyBaseNotes choice.rootDn config,
        (ambient.configuredBy settings).scene.reply note = .ok () := by
  obtain ⟨after, hrun, -⟩ := create_run settings (some choice) hooks ambient
  rw [hconfigured] at hrun
  rw [hrun]
  change (∃ populator, wiring (ambient.configuredBy settings).scene settings (some choice) hooks
    = .ok populator) ↔ _
  rw [wiring, hconfig]
  change (∃ populator, settle _ (emptyBaseNotes choice.rootDn config) _ = .ok populator) ↔ _
  simp only [settle_eq_ok_iff, exists_and_right, Except.ok.injEq, exists_eq', true_and]

/-- Where logging was never configured, the level must be usable. -/
theorem exists_create_first_iff {level : String} (hlevel : settings.get .logLevel = .text level)
    (hconfig : settings.groupSearch = .ok config) (choice : GatewayChoice) (hooks : Hooks)
    {ambient : Ambient} (hfresh : ambient.logging = {}) :
    (∃ populator, ((create settings (some choice) hooks).run ambient).1 = .ok populator) ↔
      upper level ∉ unusableLevels ∧ ∀ note ∈ emptyBaseNotes choice.rootDn config,
        note.level.severity < severityOf level ∨
          note.lineFault? ambient.context (settings.get .serviceName) = none := by
  by_cases h : upper level ∈ unusableLevels
  · obtain ⟨failure, hconfigure⟩ := Logging.configure_unusable (settings.get .serviceName) h
    rw [create_run_eq, hfresh, hlevel, hconfigure]
    simp [h]
  · have hconfigure := Logging.configure_usable (settings.get .serviceName) h
    rw [← hfresh, ← hlevel] at hconfigure
    rw [exists_create_iff hconfig choice hooks (congrArg Prod.fst hconfigure)]
    change (∀ note ∈ _, (ambient.logging.configure _ _).2.reply ambient.context note = .ok ()) ↔ _
    rw [hconfigure]
    simp only [Logging.reply_configured]
    exact (and_iff_right h).symm

/-- There the level alone decides if the context is harmless and the root of the gateway can be
written. -/
theorem exists_create_harmless_iff (hhold : settings.Hold) {level : String}
    (hlevel : settings.get .logLevel = .text level) (hconfig : settings.groupSearch = .ok config)
    {choice : GatewayChoice} (hroot : choice.rootDn.isWritable = true) (hooks : Hooks)
    {ambient : Ambient} (hfresh : ambient.logging = {})
    (hharmless : Context.Harmless ambient.context) :
    (∃ populator, ((create settings (some choice) hooks).run ambient).1 = .ok populator) ↔
      upper level ∉ unusableLevels := by
  rw [exists_create_first_iff hlevel hconfig choice hooks hfresh]
  refine and_iff_left fun note hnote => Or.inr ?_
  exact (hharmless.faultless (plain_of_mem_emptyBaseNotes hroot config note hnote)
    (hhold.isWritable .serviceName)).2

/-- Where the threshold of the root is set, the level does not matter. -/
theorem exists_create_later_iff {level : String} (hlevel : settings.get .logLevel = .text level)
    (hconfig : settings.groupSearch = .ok config) (choice : GatewayChoice) (hooks : Hooks)
    {ambient : Ambient} (hset : ambient.logging.threshold ≠ none) :
    (∃ populator, ((create settings (some choice) hooks).run ambient).1 = .ok populator) ↔
      ∀ note ∈ emptyBaseNotes choice.rootDn config,
        (ambient.configuredBy settings).scene.reply note = .ok () := by
  refine exists_create_iff hconfig choice hooks ?_
  obtain ⟨severity, hseverity⟩ := Option.ne_none_iff_exists'.1 hset
  unfold Logging.configure
  simp only [hlevel, Value.asText?, hseverity]

end Populator

namespace Session

/-- **The first configuration of a process.** Take any run in which nothing configures logging, and
any level text. Configuring logging then succeeds exactly if the text in upper case is none of the
two that name something other than a level; and then the service name is set and all loggers have
the threshold of the level that the text names, or of `INFO` if it names none. Else it fails
half-way: later configurations succeed, but the threshold stays the initial one.

Settings that are accepted carry a level text and describe a group search. In such a process the
creation of a populator from them over any gateway configures logging like that, and succeeds
exactly if the text is usable and the line about an empty base, if it is due and its level reaches
the threshold, can be written. It can in a harmless context over a gateway whose root can be
written: then the text alone decides. In a process whose threshold is set the text does not matter.
-/
theorem first_configuration {start : Session} (hstart : start.logging = {})
    {earlier : List SessionStep} (hearlier : start.Fresh earlier) (service : Value)
    (level : String) :
    let session := (start.runAll earlier).2
    let first := session.step { action := .configure service (.text level) }
    (first.1.answer = .done ↔ upper level ∉ unusableLevels) ∧
      Logging.FirstConfigured service level first.2.logging ∧
      (upper level ∈ unusableLevels → (∃ failure, first.1.answer = .failed failure) ∧
        ∀ (service' : Value) (level' : String),
          let second := first.2.step { action := .configure service' (.text level') }
          second.1.answer = .done ∧
            ∀ name, second.2.logging.thresholdOf name = initialThreshold) ∧
      ∀ (machine : Machine) (environment : Environment) (arguments : Assoc Value)
        (settings : Settings), Settings.construct machine environment arguments = .ok settings →
        ∃ text config, settings.get .logLevel = .text text ∧ settings.groupSearch = .ok config ∧
          ∀ (choice : GatewayChoice) (hooks : Hooks),
            let create := Populator.create settings (some choice) hooks
            Logging.FirstConfigured (settings.get .serviceName) text
              (create.run session.ambient).2.logging ∧
            ((∃ populator, (create.run session.ambient).1 = .ok populator) ↔
              upper text ∉ unusableLevels ∧
                ∀ note ∈ Populator.emptyBaseNotes choice.rootDn config,
                  note.level.severity < severityOf text ∨
                    note.lineFault? session.context (settings.get .serviceName) = none) ∧
            (Context.Harmless session.context → choice.rootDn.isWritable = true →
              ((∃ populator, (create.run session.ambient).1 = .ok populator) ↔
                upper text ∉ unusableLevels)) ∧
            ∀ ambient : Ambient, ambient.logging.threshold ≠ none →
              ((∃ populator, (create.run ambient).1 = .ok populator) ↔
                ∀ note ∈ Populator.emptyBaseNotes choice.rootDn config,
                  (ambient.configuredBy settings).scene.reply note = .ok ()) := by
  intro session first
  have hfresh : session.logging = {} := logging_runAll_fresh hstart hearlier
  obtain ⟨hanswer, hlogging⟩ : first.1.answer = _ ∧ first.2.logging = _ :=
    step_configure (Prod.eta (session.logging.configure service (.text level))).symm
  rw [hfresh] at hanswer hlogging
  refine ⟨?_, ?_, ?_, ?_⟩
  · rw [hanswer, Answer.ofUnit_eq_done_iff]
    exact Logging.configure_first_eq_ok_iff service level
  · rw [hlogging]
    exact Logging.firstConfigured service level
  · intro h
    obtain ⟨failure, hconfigure⟩ := Logging.configure_unusable service h
    rw [hconfigure] at hanswer hlogging
    exact ⟨⟨failure, hanswer⟩, step_configure_halfway hlogging⟩
  -- Accepted settings are of their kinds, so there is a level text and a group search.
  · intro machine environment arguments settings hmade
    have hhold := Settings.hold_of_construct hmade
    obtain ⟨text, htext⟩ := hhold.exists_text .logLevel rfl
    obtain ⟨config, hconfig, -⟩ := hhold.exists_groupSearch
    refine ⟨text, config, htext, hconfig, fun choice hooks => ⟨?_, ?_, ?_, ?_⟩⟩
    · exact Populator.firstConfigured_create htext choice hooks hfresh
    · exact Populator.exists_create_first_iff htext hconfig choice hooks hfresh
    · intro hharmless hroot
      exact Populator.exists_create_harmless_iff hhold htext hconfig hroot hooks hfresh hharmless
    · intro ambient hset
      exact Populator.exists_create_later_iff htext hconfig choice hooks hset

/-- A logger is made and used, one cannot be adjusted yet, and a level that is no text is refused.
Then logging is configured with a text that names no level, and instead a populator could be created
from settings with such a text. -/
theorem first_configuration_unknown_level :
    let start : Session := {}
    let earlier : List SessionStep :=
      [{ action := .makeLogger "own" (.text "app") },
        { action := .log "own" "info" (.text "started") [] },
        { action := .log "own" "setLevel" (.int 10) [] },
        { action := .configure (.text "authz") (.int 10) }]
    let session := (start.runAll earlier).2
    let first := session.step { action := .configure (.text "authz") (.text "verbose") }
    let settings := Settings.standard.set .logLevel (.text "notice")
    start.logging = {} ∧ start.Fresh earlier ∧ first.1.answer = .done ∧
      (∀ name, first.2.logging.thresholdOf name = Level.info.severity) ∧
      ∃ populator, ((Populator.create settings (some (.memory {})) {}).run session.ambient).1
        = .ok populator := by
  intro start earlier session first settings
  have hfresh : start.Fresh earlier := ⟨id, id, id, fun htext => htext rfl, trivial⟩
  have hlevel : SettingKind.text.Reads (.text "notice") (.text "notice") := .plain "notice"
  have hmade : Settings.construct {} [] [(SettingField.logLevel.name, .text "notice")]
      = .ok settings := Settings.construct_named _ hlevel
  obtain ⟨hdone, hfirst, -, hcreate⟩ :=
    first_configuration rfl hfresh (.text "authz") "verbose"
  obtain ⟨text, config, htext, hconfig, hpopulator⟩ := hcreate _ _ _ settings hmade
  obtain rfl : "notice" = text := Value.text.inj htext
  refine ⟨rfl, hfresh, hdone.2 (by decide), ?_, ?_⟩
  · intro name
    exact ((hfirst.usable (by decide)).2 name).trans (by decide)
  · exact ((hpopulator (.memory {}) {}).2.2.1 Scene.Undisturbed.fresh.harmless rfl).2 (by decide)

/-- A text that names the line format is no level: the first configuration fails half-way, and so
does the creation of a populator from accepted settings with a text that names the format styles. -/
theorem first_configuration_refused :
    let session : Session := {}
    let first := session.step { action := .configure (.text "authz") (.text "basic_format") }
    let settings := Settings.standard.set .logLevel (.text "_styles")
    let created := (Populator.create settings (some (.memory {})) {}).run session.ambient
    first.1.answer = .failed (.value (.notLevel lineFormat)) ∧ first.2.logging.IsHalfway ∧
      Settings.construct {} [] [(SettingField.logLevel.name, .text "_styles")] = .ok settings ∧
      created.1 = .error .illTyped ∧ created.2.logging.IsHalfway := by
  intro session first settings created
  have hlevel : SettingKind.text.Reads (.text "_styles") (.text "_styles") := .plain "_styles"
  exact ⟨rfl, ⟨Option.some_ne_none _, rfl⟩, Settings.construct_named _ hlevel, rfl,
    ⟨Option.some_ne_none _, rfl⟩⟩

end Session

end GrantedRoles
