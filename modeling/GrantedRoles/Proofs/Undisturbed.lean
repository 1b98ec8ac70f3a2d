import GrantedRoles.Proofs.Course

/-!
# Undisturbed logging

Where nobody has bound what logging cannot read or write, attached a handler, or named a service
without a text, every logger takes calls (`Scene.Undisturbed.hears`), and that stays so when logging
is configured (`Scene.Undisturbed.configure`) and when an action only uses loggers
(`Scene.Undisturbed.of_shows`).
-/

set_option autoImplicit false

namespace GrantedRoles

open Log

/-- Every logger takes calls, of any name and at any level. -/
def Scene.Hears (scene : Scene) : Prop := ∀ logger name level, scene.Takes logger name level

namespace Scene.Hears

variable {scene : Scene} {note : Note}

/-- A user can be bound. -/
theorem withUser (h : scene.Hears) (dn username : String) : (scene.withUser dn username).Hears :=
  fun logger name level => (h logger name level).withUser dn username

theorem of_shows {ambient : Ambient} (h : scene.Hears) (hshows : ambient.Shows scene) :
    ambient.scene.Hears := by
  intro logger name level
  refine Logging.takes_iff.2 ?_
  change ambient.logging.reply ambient.context _ = _
  rw [hshows.context, hshows.logging.reply_eq]
  exact Logging.takes_iff.1 (h logger name level)

theorem reply_of_plain (h : scene.Hears) (hplain : note.Plain) : scene.reply note = .ok () :=
  Scene.reply_of_plain hplain (h note.logger note.name note.level)

/-- Another call of which logging reads nothing itself is refused only for a value without a text.
-/
theorem reply_of_uninterpreted (h : scene.Hears) (hnote : note.Uninterpreted) :
    scene.reply note = .ok () ∨ scene.reply note = .error .unwritable :=
  Logging.reply_of_uninterpreted hnote (h note.logger note.name note.level)

end Scene.Hears

/-- Nothing that is bound makes logging refuse a call: what stands for a logger has a name, what
stands for an exception or a stack can be shown, and everything can be written. -/
structure Log.Context.Harmless (context : Context) : Prop where
  record : ∀ value, Assoc.get? context recordField = some value → value.isPresent = true →
    (ownName? value).isSome = true
  tuple : (Assoc.get? context exceptionField).bind tupleFault? = none
  exception : isPlain context "exception" = true
  stack : isPlain context "stack" = true
  writable : ∀ key value, Assoc.get? context key = some value → value.isWritable = true

/-- Nothing refuses a call: what is bound is harmless, no handler was attached, and the names of
services can be written. -/
structure Scene.Undisturbed (scene : Scene) : Prop where
  harmless : Context.Harmless scene.context
  attached : scene.logging.attached = []
  service : ∀ logger service, scene.logging.serviceOf logger = some service →
    service.isWritable = true
  kept : scene.logging.service = none → ∀ logger service,
    scene.logging.kept.lookup logger = some service → service.isWritable = true

/-- In a harmless context a call without fields can be shown and written, for a service with a name
that can. -/
theorem Log.Context.Harmless.faultless {context : Context} (h : Context.Harmless context)
    {note : Note} (hplain : note.Plain) {service : Value} (hservice : service.isWritable = true) :
    note.printFault? context = none ∧ note.lineFault? context service = none := by
  have hmerged (key : String) (value : Value) (hvalue : (note.merged context).get? key = some value) :
      value.isWritable = true := by
    rw [Note.get?_merged, Option.or_eq_some_iff] at hvalue
    rcases hvalue with hown | ⟨-, hbound⟩
    · exact hplain.isWritable_of_get?_own hown
    · exact h.writable key value hbound
  have hread (key : String) (hkey : key ∈ interpretedFields) :
      (note.merged context).get? key = Assoc.get? context key := hplain.get?_merged context hkey
  have htuple : ((note.merged context).get? exceptionField).bind tupleFault? = none := by
    rw [hread _ (by decide)]
    exact h.tuple
  constructor
  · refine (note.printFault?_eq_none_iff context).2 ⟨fun key _ => hmerged key, htuple, ?_, Or.inr ?_⟩
    · rw [isPlain, hread _ (by decide)]
      exact h.exception
    · rw [isPlain, hread _ (by decide)]
      exact h.stack
  · refine (note.lineFault?_eq_none_iff context service).2 ⟨?_, htuple, ?_⟩
    · rw [Note.isAttributable, hread _ (by decide), Option.all_eq_true]
      intro value hvalue
      rw [Bool.or_eq_true, Bool.not_eq_true']
      cases hpresent : value.isPresent with
      | false => exact Or.inl rfl
      | true => exact Or.inr (h.record value hvalue hpresent)
    · intro key _ value hvalue
      unfold Note.shown at hvalue
      split at hvalue
      · cases hvalue
        rfl
      split at hvalue
      · cases hvalue
        rfl
      rw [← Note.get?_merged, Option.or_eq_some_iff] at hvalue
      rcases hvalue with hheld | ⟨-, hfilled⟩
      · exact hmerged key value hheld
      · split at hfilled
        · cases hfilled
          exact hservice
        · cases hfilled

/-- Binding a user adds two texts. -/
theorem Log.Context.Harmless.enter {context : Context} (h : Context.Harmless context)
    (dn username : String) :
    Context.Harmless (context.enter (.text dn) (.text username)).1 := by
  have hread (key : String) (hkey : key ∈ interpretedFields) :
      Assoc.get? (context.enter (.text dn) (.text username)).1 key = Assoc.get? context key := by
    rw [Context.get?_enter, if_neg, if_neg]
    · rintro rfl
      exact absurd hkey (by decide)
    · rintro rfl
      exact absurd hkey (by decide)
  have hplain (key : String) (hkey : key ∈ interpretedFields) (hbound : isPlain context key = true) :
      isPlain (context.enter (.text dn) (.text username)).1 key = true := by
    rw [isPlain, hread key hkey]
    exact hbound
  constructor
  · intro value hvalue
    rw [hread _ (by decide)] at hvalue
    exact h.record value hvalue
  · rw [hread _ (by decide)]
    exact h.tuple
  · exact hplain _ (by decide) h.exception
  · exact hplain _ (by decide) h.stack
  · intro key value hvalue
    rw [Context.get?_enter] at hvalue
    split at hvalue
    · cases hvalue
      rfl
    split at hvalue
    · cases hvalue
      rfl
    · exact h.writable key value hvalue

namespace Scene.Undisturbed

variable {scene : Scene}

/-- A process that has done nothing yet is undisturbed. -/
theorem fresh : Scene.Undisturbed ⟨[], {}⟩ where
  harmless := ⟨by simp, rfl, rfl, rfl, by simp⟩
  attached := rfl
  service := fun _ _ hservice => nomatch hservice
  kept := fun _ _ _ hkept => nomatch hkept

theorem hears (h : scene.Undisturbed) : scene.Hears := by
  intro logger name level
  refine Logging.takes_iff.2 ((Logging.reply_eq_ok_iff _ _ _).2 ?_)
  have hplain := Note.plain_of_text logger name level ""
  cases hservice : scene.logging.serviceOf logger with
  | none => exact (h.harmless.faultless hplain Value.isWritable_null).1
  | some service =>
    refine Or.inr ⟨(h.harmless.faultless hplain (h.service logger service hservice)).2, ?_, ?_⟩
    · simp [Logging.reachesRoot, Logging.attachedTo, h.attached]
    · simp [Logging.passesRoot, Logging.attachedTo, h.attached]

/-- Configuring logging attaches no handler, and names the service that it is given. -/
theorem configure (h : scene.Undisturbed) {service : Value} (hservice : service.isWritable = true)
    (level : Value) :
    Scene.Undisturbed ⟨scene.context, (scene.logging.configure service level).2⟩ := by
  -- Loggers that were used go on with the name that they keep, all others with the new one.
  have hnamed (state : Logging) (hkept : state.kept = scene.logging.kept)
      (hstate : state.service = some service) (logger : Logger) (shown : Value)
      (hshown : state.serviceOf logger = some shown) : shown.isWritable = true := by
    rw [Logging.serviceOf, hstate, hkept, Option.map_some, Option.some.injEq] at hshown
    cases hlookup : scene.logging.kept.lookup logger with
    | none =>
      rw [hlookup, Option.getD_none] at hshown
      exact hshown ▸ hservice
    | some held =>
      rw [hlookup, Option.getD_some] at hshown
      subst hshown
      cases hold : scene.logging.service with
      | none => exact h.kept hold logger held hlookup
      | some current =>
        refine h.service logger held ?_
        rw [Logging.serviceOf, hold, hlookup]
        rfl
  unfold Logging.configure
  repeat' split
  · exact h
  · refine ⟨h.harmless, h.attached, hnamed _ rfl rfl, ?_⟩
    intro hnone
    cases hnone
  · refine ⟨h.harmless, h.attached, hnamed _ rfl rfl, ?_⟩
    intro hnone
    cases hnone
  · exact ⟨h.harmless, h.attached, h.service, h.kept⟩

/-- What treats calls alike refuses none either. -/
theorem of_shows {ambient : Ambient} (h : scene.Undisturbed) (hshows : ambient.Shows scene) :
    ambient.scene.Undisturbed where
  harmless := by
    rw [Ambient.scene, hshows.context]
    exact h.harmless
  attached := hshows.logging.attached.trans h.attached
  service := by
    intro logger service hservice
    exact h.service logger service ((hshows.logging.serviceOf logger).symm.trans hservice)
  kept := by
    intro hnone
    have hnone' : scene.logging.service = none := hshows.logging.service.symm.trans hnone
    have hkept : ambient.logging.kept = scene.logging.kept := hshows.logging.kept hnone'
    change ∀ logger service, ambient.logging.kept.lookup logger = some service → _
    rw [hkept]
    exact h.kept hnone'

end Scene.Undisturbed

end GrantedRoles
