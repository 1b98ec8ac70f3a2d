import GrantedRoles.Proofs.Log.Fields

/-!
# Which calls are taken

A call of a logging method is refused when its line cannot be written, or cannot be shown while
logging is not configured, and when a handler on the way of the line does not take it. Most of that
depends on what the caller has bound, and nothing of it on what a plain call says: if a logger takes
a call without fields, it takes every plain call at its level (`Logging.reply_of_plain`), also with
a user bound (`Logging.Takes.enter`). Using a logger changes nothing about that, nor about what its
lines hold (`Logging.touch_alike`, `Logging.Alike.outcome_eq`).
-/

set_option autoImplicit false

namespace GrantedRoles.Log

/-! ## Logging that treats calls alike -/

namespace Logging

/-- Two states of logging that treat every call alike: they may differ in which loggers were used
since logging was configured. -/
structure Alike (s t : Logging) : Prop where
  threshold : s.threshold = t.threshold
  service : s.service = t.service
  thresholds : s.thresholds = t.thresholds
  attached : s.attached = t.attached
  serviceOf : ∀ logger, s.serviceOf logger = t.serviceOf logger
  kept : t.service = none → s.kept = t.kept

theorem Alike.refl (s : Logging) : s.Alike s := ⟨rfl, rfl, rfl, rfl, fun _ => rfl, fun _ => rfl⟩

theorem Alike.trans {s t u : Logging} (h : s.Alike t) (h' : t.Alike u) : s.Alike u where
  threshold := h.threshold.trans h'.threshold
  service := h.service.trans h'.service
  thresholds := h.thresholds.trans h'.thresholds
  attached := h.attached.trans h'.attached
  serviceOf := fun logger => (h.serviceOf logger).trans (h'.serviceOf logger)
  kept := fun hnone => (h.kept (h'.service.trans hnone)).trans (h'.kept hnone)

/-- Using a logger keeps the service name that it shows, and what every other logger shows. -/
theorem touch_alike (state : Logging) (logger : Logger) : (state.touch logger).Alike state := by
  unfold touch
  split
  · exact .refl state
  · next service hservice =>
    split
    · exact .refl state
    · next hunused =>
      refine ⟨rfl, rfl, rfl, rfl, ?_, ?_⟩
      case refine_2 =>
        intro hnone
        rw [serviceOf, hnone] at hservice
        cases hservice
      intro other
      have hkept : state.kept.lookup logger = none :=
        Option.not_isSome_iff_eq_none.1 hunused
      -- The logger keeps what it showed; the entry says nothing about any other.
      by_cases ho : other = logger
      · subst ho
        unfold serviceOf at hservice ⊢
        rw [hkept] at hservice ⊢
        obtain ⟨current, hcurrent, rfl⟩ := Option.map_eq_some_iff.1 hservice
        simp [hcurrent]
      · have hbeq : (other == logger) = false := by simp [ho]
        simp [serviceOf, List.lookup_cons, hbeq]

theorem Alike.thresholdOf_eq {s t : Logging} (h : s.Alike t) (name : String) :
    s.thresholdOf name = t.thresholdOf name := by
  rw [thresholdOf, thresholdOf, rootThreshold, rootThreshold, h.threshold, h.thresholds]

theorem Alike.reachesRoot_eq {s t : Logging} (h : s.Alike t) (name : String) :
    s.reachesRoot name = t.reachesRoot name := by
  simp only [reachesRoot, attachedTo, h.attached]

theorem Alike.passesRoot_eq {s t : Logging} (h : s.Alike t) : s.passesRoot = t.passesRoot := by
  simp only [passesRoot, attachedTo, h.attached]

/-- Logging that treats calls alike answers and writes alike. -/
theorem Alike.outcome_eq {s t : Logging} (h : s.Alike t) (context : Context) (note : Note) :
    s.outcome context note = t.outcome context note := by
  unfold outcome
  rw [h.serviceOf, h.thresholdOf_eq, h.reachesRoot_eq, h.passesRoot_eq]

/-! ## Configured logging -/

/-- The logging of a process that was configured once, at a level. -/
def configuredAt (level : String) : Logging :=
  (({} : Logging).configure (.text "service") (.text level)).2

/-- Without thresholds of their own, all loggers have that of the root. -/
theorem thresholdOf_eq_root {state : Logging} (h : state.thresholds = []) (name : String) :
    state.thresholdOf name = state.rootThreshold := by
  have hnone : (line name).filterMap state.thresholds.get? = [] := by
    simp [h, List.filterMap_eq_nil_iff]
  rw [thresholdOf, hnone]
  rfl

theorem isSome_serviceOf (state : Logging) (logger : Logger) :
    (state.serviceOf logger).isSome = state.service.isSome := by
  simp [serviceOf]

theorem isConfigured_iff (state : Logging) (logger : Logger) :
    state.isConfigured = true ↔ ∃ service, state.serviceOf logger = some service := by
  rw [← Option.isSome_iff_exists, isSome_serviceOf, isConfigured]

end Logging

/-! ## What is wrong with a call -/

namespace Note

/-- A call can be shown if what is printed of it can be written, no tuple stands for an exception,
and what is added to it is absent or a text. -/
theorem printFault?_eq_none_iff (note : Note) (context : Context) :
    note.printFault? context = none ↔
      (∀ key ∉ unprintedFields, ∀ value, (note.merged context).get? key = some value →
        value.isWritable = true) ∧
      ((note.merged context).get? exceptionField).bind tupleFault? = none ∧
      isPlain (note.merged context) "exception" = true ∧
      (((note.merged context).get? "stack_info").any Value.isTruthy = true ∨
        isPlain (note.merged context) "stack" = true) := by
  have hwritable : (((note.merged context).filter fun entry =>
        !unprintedFields.contains entry.1).all (·.2.isWritable)) = true ↔
      ∀ key ∉ unprintedFields, ∀ value, (note.merged context).get? key = some value →
        value.isWritable = true := by
    rw [all_isWritable_iff (Assoc.nodup_filter _ (note.nodup_merged context))]
    constructor
    · intro hall key hkey value hvalue
      exact hall key value (by rw [get?_filter_names, if_neg hkey, hvalue])
    · intro hall key value hvalue
      rw [get?_filter_names] at hvalue
      split at hvalue
      · cases hvalue
      · next hkey => exact hall key hkey value hvalue
  rw [← hwritable]
  simp only [printFault?]
  cases (((note.merged context).filter fun entry =>
    !unprintedFields.contains entry.1).all (·.2.isWritable)) with
  | false => simp
  | true =>
    cases ((note.merged context).get? exceptionField).bind tupleFault? with
    | some failure => simp
    | none => cases ((note.merged context).get? "stack_info").any Value.isTruthy <;> simp

/-- The line of a call can be written if its logger has a name, no tuple stands for an exception,
and everything that the line shows can be written. -/
theorem lineFault?_eq_none_iff (note : Note) (context : Context) (service : Value) :
    note.lineFault? context service = none ↔
      note.isAttributable context = true ∧
      ((note.merged context).get? exceptionField).bind tupleFault? = none ∧
      ∀ key ∉ hiddenFields, ∀ value, note.shown context service key = some value →
        value.isWritable = true := by
  rw [← line_isWritable_iff]
  simp only [lineFault?]
  cases note.isAttributable context with
  | false => simp
  | true =>
    cases ((note.merged context).get? exceptionField).bind tupleFault? with
    | some failure => simp
    | none => simp

/-- How a call cannot be shown: a value has no text, or a type is wrong. -/
theorem failure_of_printFault? {note : Note} {context : Context} {failure : Failure}
    (h : note.printFault? context = some failure) :
    failure = .illTyped ∨ failure = .unwritable := by
  simp only [printFault?] at h
  repeat' split at h
  all_goals cases h
  all_goals simp

/-- How a tuple fails to stand for an exception: an operation is missing, or a type is wrong. -/
theorem failure_of_tupleFault? {value : Option Value} {failure : Failure}
    (h : value.bind tupleFault? = some failure) :
    failure = .noSuchOperation ∨ failure = .illTyped := by
  obtain ⟨held, -, hheld⟩ := Option.bind_eq_some_iff.1 h
  unfold tupleFault? at hheld
  split at hheld
  · cases hheld
    exact Or.inl rfl
  · cases hheld
    exact Or.inr rfl
  · cases hheld

/-- How a line cannot be written: an operation is missing, a type is wrong, or a value has no
text. -/
theorem failure_of_lineFault? {note : Note} {context : Context} {service : Value}
    {failure : Failure} (h : note.lineFault? context service = some failure) :
    failure = .noSuchOperation ∨ failure = .illTyped ∨ failure = .unwritable := by
  unfold lineFault? at h
  split at h
  · cases h
    exact Or.inl rfl
  split at h
  · next hother =>
    cases h
    exact (failure_of_tupleFault? hother).imp_right Or.inl
  · split at h
    · cases h
    · cases h
      exact Or.inr (Or.inr rfl)

/-- Where logging can read what it reads itself of a call, the call can be shown but for a value
without a text. -/
theorem printFault?_of_readable {note : Note} {context : Context}
    (htuple : ((note.merged context).get? exceptionField).bind tupleFault? = none)
    (hexception : isPlain (note.merged context) "exception" = true)
    (hstack : ((note.merged context).get? "stack_info").any Value.isTruthy = true ∨
      isPlain (note.merged context) "stack" = true) :
    note.printFault? context = none ∨ note.printFault? context = some .unwritable := by
  have hplain : (isPlain (note.merged context) "exception" &&
      (((note.merged context).get? "stack_info").any Value.isTruthy ||
        isPlain (note.merged context) "stack")) = true := by
    rw [hexception, Bool.true_and, Bool.or_eq_true]
    exact hstack
  simp only [printFault?, htuple, hplain]
  split
  · exact Or.inr rfl
  · exact Or.inl rfl

/-- Likewise its line can be written but for a value without a text. -/
theorem lineFault?_of_readable {note : Note} {context : Context} (service : Value)
    (hattributable : note.isAttributable context = true)
    (htuple : ((note.merged context).get? exceptionField).bind tupleFault? = none) :
    note.lineFault? context service = none ∨
      note.lineFault? context service = some .unwritable := by
  rw [lineFault?, if_neg (by simp [hattributable]), htuple]
  cases (note.line context service).all (·.2.isWritable) with
  | true => exact Or.inl rfl
  | false => exact Or.inr rfl

end Note

/-! ## Replies to calls -/

namespace Logging

/-- The reply to a call: that it is taken, or why it is refused. -/
def reply (state : Logging) (context : Context) (note : Note) : Except Failure Unit :=
  (state.outcome context note).1

theorem Alike.reply_eq {s t : Logging} (h : s.Alike t) (context : Context) (note : Note) :
    s.reply context note = t.reply context note :=
  congrArg Prod.fst (h.outcome_eq context note)

/-- When a call is taken: it can be shown, or its level lies below the threshold, or its line can be
written and no handler on its way refuses it. -/
theorem reply_eq_ok_iff (state : Logging) (context : Context) (note : Note) :
    state.reply context note = .ok () ↔
      match state.serviceOf note.logger with
      | none => note.printFault? context = none
      | some service =>
          note.level.severity < state.thresholdOf note.name ∨
            (note.lineFault? context service = none ∧ state.reachesRoot note.name = true ∧
              state.passesRoot = true) := by
  unfold reply outcome
  cases state.serviceOf note.logger with
  | none => cases note.printFault? context <;> simp [answer]
  | some service =>
    -- The tests of `outcome`, in its order.
    by_cases hlow : note.level.severity < state.thresholdOf note.name
    · simp [hlow]
    cases hfault : note.lineFault? context service with
    | some failure => simp [hlow, hfault]
    | none =>
      cases state.reachesRoot note.name <;> cases state.passesRoot <;> simp [hlow, hfault]

/-- How a call is refused: an operation is missing, a type is wrong, or a value has no text. -/
theorem failure_of_reply {state : Logging} {context : Context} {note : Note} {failure : Failure}
    (h : state.reply context note = .error failure) :
    failure = .noSuchOperation ∨ failure = .illTyped ∨ failure = .unwritable := by
  unfold reply outcome at h
  cases hservice : state.serviceOf note.logger with
  | none =>
    rw [hservice] at h
    cases hfault : note.printFault? context with
    | none => simp [hfault, answer] at h
    | some fault =>
      simp only [hfault, answer, Option.elim_some, Except.error.injEq] at h
      exact Or.inr (Note.failure_of_printFault? (h ▸ hfault))
  | some service =>
    simp only [hservice] at h
    split at h
    · cases h
    split at h
    · next fault hfault =>
      cases h
      exact Note.failure_of_lineFault? hfault
    -- The line can be written: what is left are the handlers.
    · split at h
      · cases h
        exact Or.inl rfl
      · split at h
        · cases h
        · cases h
          exact Or.inl rfl

/-- Which calls are written, and what their lines are. -/
theorem outcome_snd_eq_some_iff (state : Logging) (context : Context) (note : Note) (line : Line) :
    (state.outcome context note).2 = some line ↔
      ∃ service, state.serviceOf note.logger = some service ∧
        state.thresholdOf note.name ≤ note.level.severity ∧
        note.lineFault? context service = none ∧ state.reachesRoot note.name = true ∧
        note.line context service = line := by
  unfold outcome
  cases state.serviceOf note.logger with
  | none => simp
  | some service =>
    by_cases hlow : note.level.severity < state.thresholdOf note.name
    · simp [hlow, Int.not_le.2 hlow]
    cases hfault : note.lineFault? context service <;>
      cases hreaches : state.reachesRoot note.name <;> simp [hlow, hfault, Int.not_lt.1 hlow]

theorem exists_outcome_snd_iff (state : Logging) (context : Context) (note : Note) :
    (∃ line, (state.outcome context note).2 = some line) ↔
      (∃ service, state.serviceOf note.logger = some service) ∧
        state.thresholdOf note.name ≤ note.level.severity ∧
        (∀ service, state.serviceOf note.logger = some service →
          note.lineFault? context service = none) ∧ state.reachesRoot note.name = true := by
  simp only [outcome_snd_eq_some_iff]
  constructor
  · rintro ⟨line, service, hservice, hlevel, hfault, hreaches, -⟩
    refine ⟨⟨service, hservice⟩, hlevel, ?_, hreaches⟩
    intro other hother
    rw [hservice] at hother
    cases hother
    exact hfault
  · rintro ⟨⟨service, hservice⟩, hlevel, hfault, hreaches⟩
    exact ⟨_, service, hservice, hlevel, hfault service hservice, hreaches, rfl⟩

/-- A call that is taken is written if its level reaches the threshold. -/
theorem outcome_snd_of_reply {state : Logging} {context : Context} {note : Note} {service : Value}
    (hservice : state.serviceOf note.logger = some service)
    (hreached : state.thresholdOf note.name ≤ note.level.severity)
    (htaken : state.reply context note = .ok ()) :
    (state.outcome context note).2 = some (note.line context service) := by
  rw [reply_eq_ok_iff] at htaken
  simp only [hservice] at htaken
  rcases htaken with hlow | ⟨hfault, hreaches, -⟩
  · exact absurd hreached (Int.not_le.2 hlow)
  · exact (state.outcome_snd_eq_some_iff context note _).2
      ⟨service, hservice, hreached, hfault, hreaches, rfl⟩

end Logging

/-! ## Plain calls -/

/-- The fields that logging reads itself. -/
def interpretedFields : List String :=
  [recordField, exceptionField, "exception", "stack", "stack_info"]

namespace Note

/-- A call says a text, and logging reads none of its fields itself. -/
structure Uninterpreted (note : Note) : Prop where
  event : ∃ s, note.event = .text s
  names : ∀ entry ∈ note.fields, entry.1 ∉ interpretedFields

/-- A call says a text, and its fields are none that logging reads itself and can be written. -/
structure Plain (note : Note) : Prop extends note.Uninterpreted where
  writable : ∀ entry ∈ note.fields, entry.2.isWritable = true

/-- A call without fields is plain. -/
theorem plain_of_text (logger : Logger) (name : String) (level : Level) (s : String) :
    Plain ⟨logger, name, level, .text s, []⟩ :=
  ⟨⟨⟨s, rfl⟩, by simp⟩, by simp⟩

variable {note : Note}

theorem own_of_text {s : String} (h : note.event = .text s) :
    note.own = Assoc.put "event" (.text s) (Assoc.ofPairs note.fields) := by
  simp [own, h]

/-- What such a call has itself is its text or one of its fields. -/
theorem Uninterpreted.get?_own (h : note.Uninterpreted) {key : String} {value : Value}
    (hvalue : note.own.get? key = some value) :
    (key = "event" ∧ value.isWritable = true) ∨ (key, value) ∈ note.fields := by
  obtain ⟨s, hs⟩ := h.event
  rw [own_of_text hs, Assoc.get?_put] at hvalue
  split at hvalue
  · next hkey =>
    cases hvalue
    exact Or.inl ⟨hkey, rfl⟩
  · exact Or.inr ((Assoc.mem_of_get?_putAll hvalue).resolve_left (by simp))

/-- What logging reads itself comes from the context. -/
theorem Uninterpreted.get?_merged (h : note.Uninterpreted) (context : Context) {key : String}
    (hkey : key ∈ interpretedFields) :
    (note.merged context).get? key = Assoc.get? context key := by
  rw [Note.get?_merged]
  cases hvalue : note.own.get? key with
  | none => rfl
  | some value =>
    rcases h.get?_own hvalue with ⟨rfl, -⟩ | hmem
    · exact absurd hkey (by decide)
    · exact absurd hkey (h.names _ hmem)

theorem Plain.isWritable_of_get?_own (h : note.Plain) {key : String} {value : Value}
    (hvalue : note.own.get? key = some value) : value.isWritable = true := by
  rcases h.toUninterpreted.get?_own hvalue with ⟨-, hwritable⟩ | hmem
  · exact hwritable
  · exact h.writable _ hmem

end Note

/-- One call, in its context, asks no more of logging than another: logging reads the same of both,
and what else the first one shows can be written or is shown by the second, which shows nothing
under other names. -/
structure Milder (context : Context) (note : Note) (context' : Context) (note' : Note) : Prop where
  logger : note.logger = note'.logger
  name : note.name = note'.name
  level : note.level = note'.level
  interpreted : ∀ key ∈ interpretedFields,
    (note.merged context).get? key = (note'.merged context').get? key
  written : ∀ key value, (note.merged context).get? key = some value →
    value.isWritable = true ∨ (note'.merged context').get? key = some value
  absent : ∀ key, (note.merged context).get? key = none → (note'.merged context').get? key = none

namespace Milder

variable {context context' : Context} {note note' : Note}

theorem printFault? (h : Milder context note context' note')
    (hnone : note'.printFault? context' = none) : note.printFault? context = none := by
  rw [Note.printFault?_eq_none_iff] at hnone ⊢
  unfold isPlain at hnone ⊢
  rw [h.interpreted _ (by decide), h.interpreted "exception" (by decide),
    h.interpreted "stack_info" (by decide), h.interpreted "stack" (by decide)]
  refine ⟨?_, hnone.2⟩
  intro key hkey value hvalue
  rcases h.written key value hvalue with hwritable | hshown
  · exact hwritable
  · exact hnone.1 key hkey value hshown

theorem lineFault? (h : Milder context note context' note') {service : Value}
    (hnone : note'.lineFault? context' service = none) :
    note.lineFault? context service = none := by
  rw [Note.lineFault?_eq_none_iff] at hnone ⊢
  unfold Note.isAttributable at hnone ⊢
  rw [h.interpreted recordField (by decide), h.interpreted exceptionField (by decide)]
  refine ⟨hnone.1, hnone.2.1, ?_⟩
  intro key hkey value hvalue
  have hother := hnone.2.2 key hkey
  unfold Note.shown at hvalue hother
  split at hvalue
  · cases hvalue
    rfl
  split at hvalue
  · cases hvalue
    rfl
  next hlogger hlevel =>
  simp only [hlogger, hlevel, if_false, ← Note.get?_merged] at hvalue hother
  cases hshown : (note.merged context).get? key with
  | none =>
    rw [hshown, Option.none_or] at hvalue
    exact hother value (by rw [h.absent key hshown, Option.none_or, hvalue])
  | some held =>
    rw [hshown, Option.some_or] at hvalue
    cases hvalue
    rcases h.written key value hshown with hwritable | hother'
    · exact hwritable
    · exact hother value (by rw [hother', Option.some_or])

/-- If the call that asks more is taken, the milder one is. -/
theorem reply (h : Milder context note context' note') {state : Logging}
    (htaken : state.reply context' note' = .ok ()) : state.reply context note = .ok () := by
  rw [Logging.reply_eq_ok_iff] at htaken ⊢
  rw [h.logger, h.level, h.name]
  cases hservice : state.serviceOf note'.logger with
  | none =>
    simp only [hservice] at htaken ⊢
    exact h.printFault? htaken
  | some service =>
    simp only [hservice] at htaken ⊢
    exact htaken.imp_right fun ⟨hfault, hpasses⟩ => ⟨h.lineFault? hfault, hpasses⟩

/-- A plain call asks no more than one without fields. -/
theorem of_plain (h : note.Plain) (h' : note'.Plain) (hfields : note'.fields = [])
    (hlogger : note.logger = note'.logger) (hname : note.name = note'.name)
    (hlevel : note.level = note'.level) : Milder context note context note' := by
  have hown : ∀ key ≠ "event", note'.own.get? key = none := by
    intro key hkey
    cases hvalue : note'.own.get? key with
    | none => rfl
    | some value =>
      rcases h'.toUninterpreted.get?_own hvalue with ⟨hevent, -⟩ | hmem
      · exact absurd hevent hkey
      · rw [hfields] at hmem
        cases hmem
  have hevent : (note.own.get? "event").isSome = true := by
    obtain ⟨s, hs⟩ := h.event
    rw [Note.own_of_text hs, Assoc.get?_put, if_pos rfl]
    rfl
  refine ⟨hlogger, hname, hlevel, ?_, ?_, ?_⟩
  · intro key hkey
    rw [h.get?_merged context hkey, h'.get?_merged context hkey]
  · intro key value hvalue
    rw [Note.get?_merged] at hvalue
    cases hheld : note.own.get? key with
    | some held =>
      rw [hheld, Option.some_or] at hvalue
      cases hvalue
      exact Or.inl (h.isWritable_of_get?_own hheld)
    | none =>
      rw [hheld, Option.none_or] at hvalue
      refine Or.inr ?_
      -- A name that the call itself does not give is not the event, so the context decides it.
      rw [Note.get?_merged, hown key, Option.none_or, hvalue]
      rintro rfl
      rw [hheld] at hevent
      cases hevent
  · intro key hnone
    rw [Note.get?_merged, Option.or_eq_none_iff] at hnone
    rw [Note.get?_merged, hown key, Option.none_or, hnone.2]
    rintro rfl
    rw [hnone.1] at hevent
    cases hevent

/-- A user is bound under names that logging does not read, and has two texts. -/
theorem enter (context : Context) (dn username : String) (note : Note) :
    Milder (context.enter (.text dn) (.text username)).1 note context note := by
  have hget (key : String) : (note.merged (context.enter (.text dn) (.text username)).1).get? key
      = (note.own.get? key).or (if key = Context.usernameKey then some (.text username)
          else if key = Context.userDnKey then some (.text dn)
          else Assoc.get? context key) := by
    rw [Note.get?_merged, Context.get?_enter]
  refine ⟨rfl, rfl, rfl, ?_, ?_, ?_⟩
  · intro key hkey
    have hname : key ≠ Context.usernameKey := by
      rintro rfl
      exact absurd hkey (by decide)
    have hdn : key ≠ Context.userDnKey := by
      rintro rfl
      exact absurd hkey (by decide)
    rw [hget, if_neg hname, if_neg hdn, Note.get?_merged]
  · intro key value hvalue
    rw [hget] at hvalue
    rw [Note.get?_merged]
    cases hown : note.own.get? key with
    | some held =>
      rw [hown, Option.some_or] at hvalue
      exact Or.inr hvalue
    | none =>
      rw [hown, Option.none_or] at hvalue
      split at hvalue
      · cases hvalue
        exact Or.inl rfl
      split at hvalue
      · cases hvalue
        exact Or.inl rfl
      · exact Or.inr hvalue
  · intro key hnone
    rw [hget, Option.or_eq_none_iff] at hnone
    rw [Note.get?_merged, hnone.1, Option.none_or]
    obtain ⟨-, hnone⟩ := hnone
    split at hnone
    · cases hnone
    split at hnone
    · cases hnone
    · exact hnone

end Milder

namespace Logging

/-- A logger takes calls at a level: a call without fields is not refused. -/
def Takes (state : Logging) (context : Context) (logger : Logger) (name : String) (level : Level) :
    Prop :=
  (state.reply context ⟨logger, name, level, .text "", []⟩).isOk = true

instance (state : Logging) (context : Context) (logger : Logger) (name : String) (level : Level) :
    Decidable (state.Takes context logger name level) :=
  inferInstanceAs (Decidable (_ = true))

theorem takes_iff {state : Logging} {context : Context} {logger : Logger} {name : String}
    {level : Level} :
    state.Takes context logger name level ↔
      state.reply context ⟨logger, name, level, .text "", []⟩ = .ok () := by
  unfold Takes
  cases state.reply context ⟨logger, name, level, .text "", []⟩ with
  | error failure => simp [Except.isOk, Except.toBool]
  | ok done => simp [Except.isOk, Except.toBool]

/-- A logger that takes a call without fields takes every plain call. -/
theorem reply_of_plain {state : Logging} {context : Context} {note : Note} (h : note.Plain)
    (htakes : state.Takes context note.logger note.name note.level) :
    state.reply context note = .ok () :=
  (Milder.of_plain h (Note.plain_of_text _ _ _ "") rfl rfl rfl rfl).reply (takes_iff.1 htakes)

/-- Such a logger refuses a call of which it reads nothing itself only for a value without a text.
-/
theorem reply_of_uninterpreted {state : Logging} {context : Context} {note : Note}
    (h : note.Uninterpreted) (htakes : state.Takes context note.logger note.name note.level) :
    state.reply context note = .ok () ∨ state.reply context note = .error .unwritable := by
  -- What logging reads itself is the same of a call without fields, which it takes.
  let plain : Note := ⟨note.logger, note.name, note.level, .text "", []⟩
  have hsame (key : String) (hkey : key ∈ interpretedFields) :
      (plain.merged context).get? key = (note.merged context).get? key := by
    rw [h.get?_merged context hkey,
      (Note.plain_of_text note.logger note.name note.level "").get?_merged context hkey]
  have htaken := (reply_eq_ok_iff state context plain).1 (takes_iff.1 htakes)
  simp only [show plain.logger = note.logger from rfl, show plain.level = note.level from rfl,
    show plain.name = note.name from rfl] at htaken
  unfold reply outcome
  cases hservice : state.serviceOf note.logger with
  | none =>
    simp only [hservice] at htaken
    obtain ⟨-, htuple, hexception, hstack⟩ := (plain.printFault?_eq_none_iff context).1 htaken
    unfold isPlain at hexception hstack
    rw [hsame _ (by decide)] at htuple hexception
    rw [hsame "stack_info" (by decide), hsame "stack" (by decide)] at hstack
    rcases Note.printFault?_of_readable htuple hexception hstack with hnone | hunwritable
    · exact Or.inl (by simp only [hnone, answer, Option.elim_none])
    · exact Or.inr (by simp only [hunwritable, answer, Option.elim_some])
  | some service =>
    simp only [hservice] at htaken
    by_cases hlow : note.level.severity < state.thresholdOf note.name
    · exact Or.inl (by simp only [hlow, if_true])
    · obtain ⟨hfault, hreaches, hpasses⟩ := htaken.resolve_left hlow
      obtain ⟨hattributable, htuple, -⟩ := (plain.lineFault?_eq_none_iff context service).1 hfault
      unfold Note.isAttributable at hattributable
      rw [hsame _ (by decide)] at htuple hattributable
      rcases Note.lineFault?_of_readable service hattributable htuple with hnone | hunwritable
      · exact Or.inl (by simp [hlow, hnone, hreaches, hpasses])
      · exact Or.inr (by simp only [hlow, hunwritable, if_false])

/-- It does not matter which text a call without fields says. -/
theorem takes_iff_reply {state : Logging} {context : Context} (logger : Logger) (name : String)
    (level : Level) (s : String) :
    state.Takes context logger name level ↔
      state.reply context ⟨logger, name, level, .text s, []⟩ = .ok () := by
  rw [takes_iff]
  exact ⟨(Milder.of_plain (Note.plain_of_text _ _ _ s) (Note.plain_of_text _ _ _ "") rfl rfl rfl
    rfl).reply, (Milder.of_plain (Note.plain_of_text _ _ _ "") (Note.plain_of_text _ _ _ s) rfl rfl
    rfl rfl).reply⟩

/-- What a logger takes it also takes with a user bound. -/
theorem Takes.enter {state : Logging} {context : Context} {logger : Logger} {name : String}
    {level : Level} (h : state.Takes context logger name level) (dn username : String) :
    state.Takes (context.enter (.text dn) (.text username)).1 logger name level :=
  takes_iff.2 ((Milder.enter context dn username _).reply (takes_iff.1 h))

end Logging

end GrantedRoles.Log
