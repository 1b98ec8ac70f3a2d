import GrantedRoles.Proofs.Conduct
import GrantedRoles.Proofs.Log.Taking
import GrantedRoles.Proofs.Traces

/-!
# Logging as a state machine

What a process does to logging is a history of four kinds of events: a level is configured, a
service name is configured, a logger is made anew, or a logger is used. `Recorded` says what logging
is after a history: only the first level counts, and a logger keeps the service name of its first
use after a configuration, be it overwritten since, until it is made anew. From this follows which
remarks are written and which service name they show (`Recorded.written_iff`), and which are refused
(`Recorded.reply_of_shows`).
-/

set_option autoImplicit false

namespace GrantedRoles.Log

/-! ## Histories -/

/-- What happens to logging. -/
inductive LogEvent where
  | leveled (severity : Int)
  | labelled (service : Value)
  | renewed (logger : Logger)
  | used (logger : Logger)

/-- The level that an event configures. -/
def LogEvent.severity? : LogEvent → Option Int
  | leveled severity => some severity
  | _ => none

/-- The service name that an event configures. -/
def LogEvent.service? : LogEvent → Option Value
  | labelled service => some service
  | _ => none

/-- What happened to logging, from the first event on. -/
abbrev History := List LogEvent

/-- The threshold of a history: that of its first level. -/
def firstThreshold (history : History) : Int :=
  (history.filterMap LogEvent.severity?).head?.getD initialThreshold

/-- The service name that a history configured last. -/
def lastService? (history : History) : Option Value :=
  (history.filterMap LogEvent.service?).getLast?

/-- The logger is used while a service name is configured. -/
def IsPinning (logger : Logger) (before : History) (event : LogEvent) : Prop :=
  event = .used logger ∧ lastService? before ≠ none

/-- The logger is made anew. -/
def IsRenewal (logger : Logger) (event : LogEvent) : Prop := event = .renewed logger

/-- Since the logger was last made, it was not used while a service name was configured. -/
def Unpinned (history : History) (logger : Logger) : Prop :=
  ¬ Since (IsPinning logger) (IsRenewal logger) history

/-- Since the logger was last made, it was used for the first time while this service name was
configured. -/
def Pinned (history : History) (logger : Logger) (service : Value) : Prop :=
  ∃ before event since, First (IsPinning logger) (IsRenewal logger) history before event since ∧
    lastService? before = some service

/-- The service name that a logger shows: the one that it is pinned to, or else the last one. -/
def Shows (history : History) (logger : Logger) (service : Value) : Prop :=
  Pinned history logger service ∨
    (Unpinned history logger ∧ lastService? history = some service)

theorem lastService?_concat (history : History) (last : LogEvent) :
    lastService? (history ++ [last]) = last.service?.or (lastService? history) := by
  unfold lastService?
  rw [List.filterMap_append, List.getLast?_append]
  cases last <;> rfl

theorem unpinned_concat {history : History} {last : LogEvent} {logger : Logger} :
    Unpinned (history ++ [last]) logger ↔
      last = .renewed logger ∨
        (Unpinned history logger ∧ (last = .used logger → lastService? history = none)) := by
  unfold Unpinned
  rw [since_concat]
  constructor
  · intro h
    by_cases hlast : last = .renewed logger
    · exact Or.inl hlast
    refine Or.inr ⟨fun hsince => h (Or.inr ⟨hsince, hlast⟩), fun hused => ?_⟩
    by_contra hconfigured
    exact h (Or.inl ⟨hused, hconfigured⟩)
  · rintro (rfl | ⟨hunpinned, hunconfigured⟩) (⟨hused, hconfigured⟩ | ⟨hsince, hlast⟩)
    · cases hused
    · exact hlast rfl
    · exact hconfigured (hunconfigured hused)
    · exact hunpinned hsince

theorem pinned_concat {history : History} {last : LogEvent} {logger : Logger} {service : Value} :
    Pinned (history ++ [last]) logger service ↔
      (Pinned history logger service ∧ last ≠ .renewed logger) ∨
        (last = .used logger ∧ Unpinned history logger ∧
          lastService? history = some service) := by
  unfold Pinned
  constructor
  · rintro ⟨before, event, since, hfirst, hservice⟩
    rcases first_concat.1 hfirst with ⟨-, rfl, rfl, ⟨hused, -⟩, hunpinned⟩ |
      ⟨between, -, hfirst, hlast⟩
    · exact Or.inr ⟨hused, hunpinned, hservice⟩
    · exact Or.inl ⟨⟨before, event, between, hfirst, hservice⟩, hlast⟩
  · rintro (⟨⟨before, event, since, hfirst, hservice⟩, hlast⟩ | ⟨rfl, hunpinned, hservice⟩)
    · exact ⟨before, event, _, first_concat.2 (Or.inr ⟨since, rfl, hfirst, hlast⟩), hservice⟩
    · have hpinning : IsPinning logger history (.used logger) := ⟨rfl, by simp [hservice]⟩
      exact ⟨history, _, [],
        first_concat.2 (Or.inl ⟨rfl, rfl, rfl, hpinning, hunpinned⟩), hservice⟩

/-- A logger is pinned only after a configuration. -/
theorem Pinned.configured {history : History} {logger : Logger} {service : Value}
    (h : Pinned history logger service) : lastService? history ≠ none := by
  obtain ⟨before, event, since, hfirst, hservice⟩ := h
  unfold lastService? at hservice ⊢
  rw [hfirst.split, List.filterMap_append, List.getLast?_append, hservice]
  simp

/-- A pinned logger stays pinned until it is made anew. -/
theorem Pinned.append {history more : History} {logger : Logger} {service : Value}
    (h : Pinned history logger service) (hmore : .renewed logger ∉ more) :
    Pinned (history ++ more) logger service := by
  obtain ⟨before, event, since, hfirst, hservice⟩ := h
  refine ⟨before, event, since ++ more, ⟨?_, hfirst.happened, hfirst.first, ?_⟩, hservice⟩
  · rw [hfirst.split]
    simp
  · refine List.forall_mem_append.2 ⟨hfirst.kept, ?_⟩
    rintro one hone rfl
    exact hmore hone

/-! ## Logging after a history -/

namespace Logging

/-- Logging after one more event. A level counts only if none was configured before. -/
def after (state : Logging) : LogEvent → Logging
  | .leveled severity => { state with threshold := some (state.threshold.getD severity) }
  | .labelled service => { state with service := some service }
  | .renewed logger => state.renew logger
  | .used logger => state.touch logger

/-- Logging after more events. -/
def afterAll (state : Logging) (history : History) : Logging := history.foldl after state

@[simp] theorem afterAll_nil (state : Logging) : state.afterAll [] = state := rfl

theorem afterAll_append (state : Logging) (history more : History) :
    state.afterAll (history ++ more) = (state.afterAll history).afterAll more :=
  List.foldl_append

/-- The uses of loggers by remarks. -/
theorem touchAll_eq (state : Logging) (remarks : List Remark) :
    state.touchAll remarks = state.afterAll (remarks.map fun remark => .used remark.note.logger) := by
  rw [touchAll, afterAll, List.foldl_map]
  rfl

theorem lookup_renew (state : Logging) (logger other : Logger) :
    (state.renew logger).kept.lookup other
      = if other = logger then none else state.kept.lookup other := by
  simp only [renew]
  -- The entries of the logger are filtered out one by one.
  induction state.kept with
  | nil => simp
  | cons entry rest ih =>
    obtain ⟨key, service⟩ := entry
    by_cases hkey : key = logger
    · rw [List.filter_cons_of_neg (by simp [hkey]), ih, List.lookup_cons]
      by_cases hother : other = logger
      · simp [hother]
      · have hbeq : (other == key) = false := by simp [hkey, hother]
        simp [hbeq]
    · rw [List.filter_cons_of_pos (by simp [hkey]), List.lookup_cons, List.lookup_cons, ih]
      by_cases hother : other = key
      · simp [hother, hkey]
      · have hbeq : (other == key) = false := by simp [hother]
        simp [hbeq]

theorem lookup_touch (state : Logging) (logger other : Logger) :
    (state.touch logger).kept.lookup other
      = if other = logger then (state.kept.lookup logger).or state.service
        else state.kept.lookup other := by
  unfold touch serviceOf
  cases hservice : state.service with
  | none =>
    by_cases hother : other = logger <;> simp [hother]
  | some current =>
    cases hkept : state.kept.lookup logger with
    | some service => by_cases hother : other = logger <;> simp [hother, hkept]
    | none =>
      by_cases hother : other = logger
      · simp [hother]
      · have hbeq : (other == logger) = false := by simp [hother]
        simp [hother, List.lookup_cons, hbeq]

theorem touch_eq (state : Logging) (logger : Logger) :
    state.touch logger = { state with kept := (state.touch logger).kept } := by
  unfold touch
  repeat' split
  all_goals rfl

end Logging

/-- Logging records a history: it is what the history made of logging that was not configured, and
no logger has a threshold or a handler of its own. -/
structure Recorded (history : History) (state : Logging) : Prop where
  threshold : state.threshold = (history.filterMap LogEvent.severity?).head?
  service : state.service = lastService? history
  pinned : ∀ logger service,
    state.kept.lookup logger = some service ↔ Pinned history logger service
  unpinned : ∀ logger, state.kept.lookup logger = none ↔ Unpinned history logger
  thresholds : state.thresholds = []
  attached : state.attached = []

namespace Recorded

variable {history : History} {state : Logging}

/-- A use is the only event that may pin: it fixes the current service name if there is one. -/
theorem use (h : Recorded history state) (used : Logger) :
    Recorded (history ++ [.used used]) (state.touch used) := by
  have htouch := state.touch_eq used
  refine ⟨?_, ?_, ?_, ?_, ?_, ?_⟩
  · rw [htouch, h.threshold, List.filterMap_append]
    simp [LogEvent.severity?]
  · rw [lastService?_concat, htouch]
    exact h.service
  · intro logger service
    rw [Logging.lookup_touch, pinned_concat]
    by_cases hlogger : logger = used
    · subst hlogger
      rw [if_pos rfl, h.service, Option.or_eq_some_iff, h.pinned, h.unpinned]
      simp
    · simp [hlogger, h.pinned, Ne.symm hlogger]
  · intro logger
    rw [Logging.lookup_touch, unpinned_concat]
    by_cases hlogger : logger = used
    · subst hlogger
      rw [if_pos rfl, h.service, Option.or_eq_none_iff, h.unpinned]
      simp
    · simp [hlogger, h.unpinned, Ne.symm hlogger]
  · rw [htouch]
    exact h.thresholds
  · rw [htouch]
    exact h.attached

/-- A renewed logger is no longer pinned. -/
theorem renew (h : Recorded history state) (renewed : Logger) :
    Recorded (history ++ [.renewed renewed]) (state.renew renewed) := by
  refine ⟨?_, ?_, ?_, ?_, h.thresholds, h.attached⟩
  · rw [Logging.renew, h.threshold, List.filterMap_append]
    simp [LogEvent.severity?]
  · rw [lastService?_concat]
    exact h.service
  · intro logger service
    rw [Logging.lookup_renew, pinned_concat]
    by_cases hlogger : logger = renewed
    · simp [hlogger]
    · simp [hlogger, h.pinned, Ne.symm hlogger]
  · intro logger
    rw [Logging.lookup_renew, unpinned_concat]
    by_cases hlogger : logger = renewed
    · simp [hlogger]
    · simp [hlogger, h.unpinned, Ne.symm hlogger]

/-- What one event makes of logging. -/
theorem concat (h : Recorded history state) (last : LogEvent) :
    Recorded (history ++ [last]) (state.after last) := by
  cases last with
  | leveled severity =>
    refine ⟨?_, ?_, ?_, ?_, h.thresholds, h.attached⟩
    · rw [Logging.after, h.threshold, List.filterMap_append, List.head?_append]
      cases (history.filterMap LogEvent.severity?).head? <;> rfl
    · rw [lastService?_concat]
      exact h.service
    · intro logger service
      simp [pinned_concat, Logging.after, h.pinned]
    · intro logger
      simp [unpinned_concat, Logging.after, h.unpinned]
  | labelled service =>
    refine ⟨?_, ?_, ?_, ?_, h.thresholds, h.attached⟩
    · rw [Logging.after, h.threshold, List.filterMap_append]
      simp [LogEvent.severity?]
    · rw [lastService?_concat]
      rfl
    · intro logger service
      simp [pinned_concat, Logging.after, h.pinned]
    · intro logger
      simp [unpinned_concat, Logging.after, h.unpinned]
  | renewed renewed => exact h.renew renewed
  | used used => exact h.use used

/-- What further events make of logging. -/
theorem append (h : Recorded history state) (more : History) :
    Recorded (history ++ more) (state.afterAll more) := by
  induction more generalizing history state with
  | nil =>
    rw [List.append_nil]
    exact h
  | cons event rest ih =>
    rw [List.append_cons]
    exact ih (h.concat event)

/-- All loggers have the threshold of the first level. -/
theorem thresholdOf_eq (h : Recorded history state) (name : String) :
    state.thresholdOf name = firstThreshold history := by
  rw [Logging.thresholdOf_eq_root h.thresholds, Logging.rootThreshold, h.threshold]
  rfl

end Recorded

end GrantedRoles.Log
