import GrantedRoles.Settings.Construction

/-!
# What settings accept

`SettingKind.Reads` says as a list of rules which values stand for what in a setting of a kind:
texts for themselves and octets for the text that they write, zero and one and some words for truth
values. It does not say how a value is checked; the check accepts exactly what the rules read
(`SettingKind.accept_eq_ok_iff`). What is accepted is of the setting's kind from then on, and so are
all settings that are made (`Settings.hold_of_construct`), wherever their values came from.
-/

set_option autoImplicit false

namespace GrantedRoles

open Text

namespace SettingKind

/-! ## The rules -/

/-- The word that a value spells: a text, or fixed octets that write one. -/
def spelled? : Value → Option String
  | .text s => some s
  | .octets os false => ofUtf8? os
  | _ => none

/-- A word with its ASCII letters in lower case. -/
def lowered (word : String) : String := String.ofList (word.toList.map Char.toLower)

/-- The words for a truth value. -/
def wordsFor : Bool → List String
  | true => yesWords
  | false => noWords

/-- The values that stand for something in a setting of a kind, with what they stand for. -/
inductive Reads : SettingKind → Value → Value → Prop
  | listed {s : String} (h : s ∈ environments) : Reads environment (.text s) (.text s)
  | plain (s : String) : Reads text (.text s) (.text s)
  | word (s : Scope) : Reads text (.scope s) (.text s.word)
  | written {os : List UInt8} {growable : Bool} {s : String} (h : ofUtf8? os = some s) :
      Reads text (.octets os growable) (.text s)
  | absent : Reads optionalText .null .null
  | present {value accepted : Value} (h : Reads text value accepted) :
      Reads optionalText value accepted
  | number {value : Value} {b : Bool} (h : value.asInt? = some (if b then 1 else 0)) :
      Reads flag value (.bool b)
  | spelled {value : Value} {s : String} {b : Bool} (h : spelled? value = some s)
      (hword : lowered s ∈ wordsFor b) : Reads flag value (.bool b)

/-- The values that a setting of a kind can have. -/
def Holds : SettingKind → Value → Prop
  | environment, value => ∃ s ∈ environments, value = .text s
  | text, value => ∃ s, value = .text s
  | optionalText, value => value = .null ∨ ∃ s, value = .text s
  | flag, value => ∃ b, value = .bool b

/-- What a value stands for is of the setting's kind. -/
theorem Reads.holds {kind : SettingKind} {value accepted : Value} (h : Reads kind value accepted) :
    kind.Holds accepted := by
  induction h with
  | listed hs => exact ⟨_, hs, rfl⟩
  | plain s => exact ⟨s, rfl⟩
  | word s => exact ⟨s.word, rfl⟩
  | written hs => exact ⟨_, rfl⟩
  | absent => exact Or.inl rfl
  | present _ ih => exact Or.inr ih
  | number _ => exact ⟨_, rfl⟩
  | spelled _ _ => exact ⟨_, rfl⟩

/-! ## The check -/

variable {value accepted : Value}

theorem acceptText_eq_ok_iff : acceptText value = .ok accepted ↔ Reads text value accepted := by
  constructor
  · intro h
    cases value with
    | text s =>
      cases h
      exact .plain s
    | scope s =>
      cases h
      exact .word s
    | octets os growable =>
      cases hs : ofUtf8? os with
      | some s =>
        simp only [acceptText, hs] at h
        cases h
        exact .written hs
      | none =>
        simp only [acceptText, hs] at h
        cases h
    | _ => cases h
  · intro h
    cases h with
    | plain s => rfl
    | word s => rfl
    | written hs => simp only [acceptText, hs]

/-- No word is one for both truth values. -/
theorem not_mem_yesWords_of_mem_noWords {word : String} (h : word ∈ noWords) :
    word ∉ yesWords := by
  have hapart : ∀ other ∈ noWords, other ∉ yesWords := by decide
  exact hapart word h

theorem ofWord_eq_ok_iff {word : String} :
    ofWord word = .ok accepted ↔ ∃ b, accepted = .bool b ∧ lowered word ∈ wordsFor b := by
  unfold ofWord
  simp only [List.contains_iff_mem]
  change (if lowered word ∈ yesWords then _ else if lowered word ∈ noWords then _ else _) = _ ↔ _
  -- The words for yes are looked up first; none of them is a word for no.
  by_cases hyes : lowered word ∈ yesWords
  · rw [if_pos hyes]
    constructor
    · intro h
      cases h
      exact ⟨true, rfl, hyes⟩
    · rintro ⟨b, rfl, hb⟩
      cases b with
      | true => rfl
      | false => exact absurd hyes (not_mem_yesWords_of_mem_noWords hb)
  · rw [if_neg hyes]
    by_cases hno : lowered word ∈ noWords
    · rw [if_pos hno]
      constructor
      · intro h
        cases h
        exact ⟨false, rfl, hno⟩
      · rintro ⟨b, rfl, hb⟩
        cases b with
        | true => exact absurd hb hyes
        | false => rfl
    · rw [if_neg hno]
      constructor
      · intro h
        cases h
      · rintro ⟨b, rfl, hb⟩
        cases b with
        | true => exact absurd hb hyes
        | false => exact absurd hb hno

theorem ofNumber_eq_ok_iff {n : Int} :
    ofNumber n = .ok accepted ↔ ∃ b, accepted = .bool b ∧ n = if b then 1 else 0 := by
  unfold ofNumber
  split
  · next hzero =>
    constructor
    · intro h
      cases h
      exact ⟨false, rfl, hzero⟩
    · rintro ⟨b, rfl, hb⟩
      cases b with
      | true => exact absurd (hzero.symm.trans hb) (by decide)
      | false => rfl
  · next hzero =>
    split
    · next hone =>
      constructor
      · intro h
        cases h
        exact ⟨true, rfl, hone⟩
      · rintro ⟨b, rfl, hb⟩
        cases b with
        | true => rfl
        | false => exact absurd hb hzero
    · next hone =>
      constructor
      · intro h
        split at h <;> cases h
      · rintro ⟨b, rfl, hb⟩
        cases b with
        | true => exact absurd hb hone
        | false => exact absurd hb hzero

/-- The words of scopes are no words for truth values. -/
theorem lowered_word_not_mem (s : Scope) (b : Bool) : lowered s.word ∉ wordsFor b := by
  cases s <;> cases b <;> decide +kernel

/-- A flag that the check accepts is a number or a word for a truth value. -/
theorem reads_of_acceptFlag (h : acceptFlag value = .ok accepted) : Reads flag value accepted := by
  cases value with
  | bool b =>
    cases h
    exact .number (by cases b <;> rfl)
  | int n =>
    obtain ⟨b, rfl, rfl⟩ := ofNumber_eq_ok_iff.1 h
    exact .number rfl
  | text s =>
    obtain ⟨b, rfl, hb⟩ := ofWord_eq_ok_iff.1 h
    exact .spelled rfl hb
  | scope s =>
    -- A scope is read as its word, which is none for a truth value.
    obtain ⟨b, -, hb⟩ := ofWord_eq_ok_iff.1 h
    exact absurd hb (lowered_word_not_mem s b)
  | octets os growable =>
    cases growable with
    | true => cases h
    | false =>
      cases hs : ofUtf8? os with
      | none =>
        simp only [acceptFlag, hs] at h
        cases h
      | some s =>
        simp only [acceptFlag, hs] at h
        obtain ⟨b, rfl, hb⟩ := ofWord_eq_ok_iff.1 h
        exact .spelled hs hb
  | real x =>
    cases hn : x.toInt? with
    | none =>
      simp only [acceptFlag, hn] at h
      cases h
    | some n =>
      simp only [acceptFlag, hn] at h
      split at h
      · cases h
      · obtain ⟨b, rfl, rfl⟩ := ofNumber_eq_ok_iff.1 h
        exact .number hn
  | _ => cases h

/-- The check accepts the numbers of truth values, whatever holds them. -/
theorem acceptFlag_of_asInt? {b : Bool}
    (hn : value.asInt? = some (if b then 1 else 0)) : acceptFlag value = .ok (.bool b) := by
  cases value with
  | bool b' =>
    cases b <;> cases b' <;> first | rfl | exact absurd (Option.some.inj hn) (by decide)
  | int n => exact ofNumber_eq_ok_iff.2 ⟨b, rfl, Option.some.inj hn⟩
  | real x =>
    have hx : x.toInt? = some (if b then 1 else 0) := hn
    simp only [acceptFlag, hx]
    rw [if_neg (by cases b <;> decide)]
    exact ofNumber_eq_ok_iff.2 ⟨b, rfl, rfl⟩
  | _ => cases hn

/-- The check accepts the words of truth values, spelled as a text or as octets. -/
theorem acceptFlag_of_spelled? {s : String} {b : Bool} (hs : spelled? value = some s)
    (hword : lowered s ∈ wordsFor b) : acceptFlag value = .ok (.bool b) := by
  have hread : ofWord s = .ok (.bool b) := ofWord_eq_ok_iff.2 ⟨b, rfl, hword⟩
  cases value with
  | text other =>
    cases hs
    exact hread
  | octets os growable =>
    cases growable with
    | true => cases hs
    | false =>
      have hos : ofUtf8? os = some s := hs
      simp only [acceptFlag, hos]
      exact hread
  | _ => cases hs

theorem acceptFlag_eq_ok_iff : acceptFlag value = .ok accepted ↔ Reads flag value accepted := by
  constructor
  · exact reads_of_acceptFlag
  · intro h
    cases h with
    | number hn => exact acceptFlag_of_asInt? hn
    | spelled hs hword => exact acceptFlag_of_spelled? hs hword

/-- **The check accepts what the rules read**, as what they read it. -/
theorem accept_eq_ok_iff {kind : SettingKind} :
    kind.accept value = .ok accepted ↔ Reads kind value accepted := by
  cases kind with
  | text => exact acceptText_eq_ok_iff
  | flag => exact acceptFlag_eq_ok_iff
  | environment =>
    constructor
    · intro h
      cases value with
      | text s =>
        simp only [accept] at h
        split at h
        · next hs =>
          cases h
          exact .listed (List.contains_iff_mem.1 hs)
        · cases h
      | _ => cases h
    · intro h
      cases h with
      | listed hs => simp only [accept, List.contains_iff_mem.2 hs, if_true]
  | optionalText =>
    -- Null is read as null by its own rule, and as no text.
    by_cases hnull : value = .null
    · subst hnull
      constructor
      · intro h
        cases h
        exact .absent
      · intro h
        cases h with
        | absent => rfl
        | present hpresent => cases hpresent
    · simp only [accept, if_pos (Value.isPresent_iff.2 hnull)]
      rw [acceptText_eq_ok_iff]
      constructor
      · exact .present
      · intro h
        cases h with
        | absent => exact absurd rfl hnull
        | present hpresent => exact hpresent

/-- A value stands for one thing in a setting. -/
theorem Reads.unique {kind : SettingKind} {other : Value} (h : Reads kind value accepted)
    (h' : Reads kind value other) : accepted = other :=
  Except.ok.inj ((accept_eq_ok_iff.2 h).symm.trans (accept_eq_ok_iff.2 h'))

end SettingKind

/-- The value that a setting has if nothing gives it one is of its kind. -/
theorem SettingField.holds_standard (field : SettingField) : field.kind.Holds field.standard := by
  cases field with
  | env => exact ⟨"dev", by decide, rfl⟩
  | ldapUrl | bindDn | bindPassword | groupSearchBase | defaultRole => exact Or.inl rfl
  | searchSubtree | convertToUpperCase => exact ⟨_, rfl⟩
  | _ => exact ⟨_, rfl⟩

/-! ## Settings that are made -/

namespace Settings

namespace Origin

/-- Nothing is wrong with an origin exactly if each setting resolves and no argument is unknown;
then the settings are what they resolve to. -/
theorem settings_eq_ok_iff (origin : Origin) (settings : Settings) :
    origin.settings = .ok settings ↔
      (∀ field, origin.resolve field = .ok (settings.get field)) ∧
        unknownArguments origin.arguments = [] := by
  have hrefusals : origin.refusals = [] ↔
      (∀ field, origin.refusal? field = none) ∧ unknownArguments origin.arguments = [] := by
    unfold refusals
    rw [List.append_eq_nil_iff, List.filterMap_eq_nil_iff, List.map_eq_nil_iff]
    simp [SettingField.mem_all]
  have hresolve (field : SettingField) : origin.refusal? field = none ↔
      origin.resolve field = .ok (origin.accepted field) := by
    unfold refusal? accepted
    cases origin.resolve field <;> simp
  unfold Origin.settings
  constructor
  · intro h
    split at h
    · next hnone =>
      cases h
      obtain ⟨hfields, harguments⟩ := hrefusals.1 hnone
      exact ⟨fun field => (hresolve field).1 (hfields field), harguments⟩
    · cases h
  · rintro ⟨hfields, harguments⟩
    have haccepted : origin.accepted = settings.get := by
      funext field
      rw [accepted, hfields field]
    have hnone : origin.refusals = [] := by
      refine hrefusals.2 ⟨?_, harguments⟩
      intro field
      rw [hresolve, hfields field, haccepted]
    rw [hnone, haccepted]

/-- A setting resolves to what its given value is read as, or to its default if none is given. -/
theorem resolve_eq_ok_iff (origin : Origin) (field : SettingField) (value : Value) :
    origin.resolve field = .ok value ↔
      match origin.given? field with
      | some given => field.kind.Reads given value
      | none => value = field.standard := by
  unfold resolve
  cases origin.given? field with
  | some given => exact SettingKind.accept_eq_ok_iff
  | none =>
    constructor
    · intro h
      cases h
      rfl
    · rintro rfl
      rfl

end Origin

/-- All settings are of their kinds. -/
def Hold (settings : Settings) : Prop :=
  ∀ field : SettingField, field.kind.Holds (settings.get field)

/-- Settings that are made from anything are of their kinds. -/
theorem hold_of_construct {machine : Machine} {environment : Environment} {arguments : Assoc Value}
    {settings : Settings} (h : construct machine environment arguments = .ok settings) :
    settings.Hold := by
  intro field
  unfold construct at h
  split at h
  · cases h
  · split at h
    · cases horigin : Origin.ofArguments machine environment arguments with
      | error failure =>
        rw [horigin] at h
        cases h
      | ok origin =>
        rw [horigin] at h
        have hresolves := ((origin.settings_eq_ok_iff settings).1 h).1 field
        rw [origin.resolve_eq_ok_iff] at hresolves
        split at hresolves
        · exact hresolves.holds
        · rw [hresolves]
          exact field.holds_standard
    · -- Sources that are ready-made give no setting a value.
      next hsources =>
      have hstandard : settings = standard := by
        unfold ofSources at h
        cases hparts : sourceParts _ with
        | error failure =>
          rw [hparts] at h
          cases h
        | ok parts =>
          rw [hparts] at h
          simp only [bind, Except.bind] at h
          split at h
          · split at h
            · cases h
            · cases h
              rfl
          · cases h
      rw [hstandard]
      exact field.holds_standard

end Settings

end GrantedRoles
