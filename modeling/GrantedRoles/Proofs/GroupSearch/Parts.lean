import GrantedRoles.GroupSearch

/-!
# The parts of a group search

A configuration is known by its seven parts. A draft makes one if each of its parts admits the value
that it has (`Lawful`); else it is refused, as a mistake of configuration that quotes the value of a
wrong type if there is one (`GroupSearchDraft.validate_decided`). From there it goes up to keyword
arguments, which must name each part at most once (`GroupSearch.ofArguments_decided`), and to the
change of one part (`GroupSearch.store_decided`). All of these are of one form, `Decided`.
-/

set_option autoImplicit false

namespace GrantedRoles

/-- A value for every part. -/
abbrev GroupSearchParts := GroupSearchField → Value

namespace GroupSearchParts

/-- The parts with another value for one of them. -/
def set (parts : GroupSearchParts) (field : GroupSearchField) (value : Value) : GroupSearchParts :=
  fun other => if other = field then value else parts other

@[simp] theorem set_self (parts : GroupSearchParts) (field : GroupSearchField) (value : Value) :
    parts.set field value field = value :=
  if_pos rfl

theorem set_of_ne {parts : GroupSearchParts} {field other : GroupSearchField} {value : Value}
    (h : other ≠ field) : parts.set field value other = parts other :=
  if_neg h

end GroupSearchParts

namespace GroupSearchField

/-- The values that a part may have. The base and the default role may be absent; the scope must be
a scope and the upper case flag a Boolean, however much another value looks like one. -/
def Admits : GroupSearchField → Value → Prop
  | base, _ => True
  | filter, value => value ≠ .null
  | roleAttribute, value => value ≠ .null
  | scope, value => ∃ s, value = .scope s
  | rolePrefix, value => value ≠ .null
  | upperCase, value => ∃ b, value = .bool b
  | defaultRole, _ => True

end GroupSearchField

/-! ## Lawful parts -/

/-- Every part has a value that it admits. -/
def Lawful (parts : GroupSearchParts) : Prop :=
  ∀ field : GroupSearchField, field.Admits (parts field)

/-- Of lawful parts one may be changed to what it admits, and to nothing else. -/
theorem Lawful.set_iff {parts : GroupSearchParts} (h : Lawful parts) (field : GroupSearchField)
    (value : Value) : Lawful (parts.set field value) ↔ field.Admits value := by
  constructor
  · intro hset
    have hfield := hset field
    rwa [GroupSearchParts.set_self] at hfield
  · intro hvalue other
    by_cases hother : other = field
    · subst hother
      rwa [GroupSearchParts.set_self]
    · rw [GroupSearchParts.set_of_ne hother]
      exact h other

/-- The parts that must be there. -/
def GroupSearchField.required : List GroupSearchField :=
  [filter, roleAttribute, scope, rolePrefix, upperCase]

theorem Lawful.ne_null {parts : GroupSearchParts} (h : Lawful parts) {field : GroupSearchField}
    (hfield : field ∈ GroupSearchField.required) : parts field ≠ .null := by
  intro hnull
  have hadmits := h field
  rw [hnull] at hadmits
  cases field with
  | base => exact absurd hfield (by decide)
  | defaultRole => exact absurd hfield (by decide)
  | scope => exact nomatch hadmits
  | upperCase => exact nomatch hadmits
  | _ => exact hadmits rfl

/-- A configuration is lawful. -/
theorem GroupSearch.lawful (config : GroupSearch) : Lawful config.get := by
  intro field
  cases field with
  | base => trivial
  | filter => exact Value.isPresent_iff.1 config.filter_isPresent
  | roleAttribute => exact Value.isPresent_iff.1 config.roleAttribute_isPresent
  | scope => exact ⟨config.scope, rfl⟩
  | rolePrefix => exact Value.isPresent_iff.1 config.rolePrefix_isPresent
  | upperCase => exact ⟨config.upperCase, rfl⟩
  | defaultRole => trivial

/-! ## Quoted values -/

/-- What refusing a value of the wrong type quotes: the value, unless it is absent. -/
def Value.quotation (value : Value) : List Value := if value.isPresent then [value] else []

/-- What refusing the parts quotes: nothing while one that must be there is absent, and else the
first of the scope and the upper case flag that is of the wrong type. -/
def GroupSearchParts.quoted (parts : GroupSearchParts) : List Value :=
  if GroupSearchField.required.all fun field => (parts field).isPresent then
    match parts .scope, parts .upperCase with
    | .scope _, .bool _ => []
    | .scope _, value => [value]
    | value, _ => [value]
  else []

/-- Nothing is quoted while a part that must be there is absent. -/
theorem GroupSearchParts.quoted_of_absent {parts : GroupSearchParts} {field : GroupSearchField}
    (hfield : field ∈ GroupSearchField.required) (h : parts field = .null) : parts.quoted = [] := by
  have hall : ¬ (GroupSearchField.required.all fun field => (parts field).isPresent) = true := by
    intro hall
    have hpresent := List.all_eq_true.1 hall field hfield
    rw [h] at hpresent
    cases hpresent
  rw [quoted, if_neg hall]

/-- Of lawful parts with one changed to what it does not admit, that value is quoted. -/
theorem Lawful.quoted_set {parts : GroupSearchParts} (h : Lawful parts) {field : GroupSearchField}
    {value : Value} (hvalue : ¬ field.Admits value) :
    (parts.set field value).quoted = value.quotation := by
  -- A missing part is named; only what is there is quoted.
  by_cases hnull : value = .null
  · subst hnull
    have hrequired : field ∈ GroupSearchField.required := by
      cases field with
      | base => exact absurd trivial hvalue
      | defaultRole => exact absurd trivial hvalue
      | _ => decide
    exact GroupSearchParts.quoted_of_absent hrequired (GroupSearchParts.set_self _ _ _)
  · have hall : (GroupSearchField.required.all fun other =>
        (parts.set field value other).isPresent) = true := by
      refine List.all_eq_true.2 fun other hother => Value.isPresent_iff.2 ?_
      by_cases hfield : other = field
      · rwa [hfield, GroupSearchParts.set_self]
      · rw [GroupSearchParts.set_of_ne hfield]
        exact h.ne_null hother
    rw [GroupSearchParts.quoted, if_pos hall, Value.quotation, if_pos (Value.isPresent_iff.2 hnull)]
    obtain ⟨s, hscope⟩ : ∃ s, parts .scope = .scope s := h .scope
    cases field with
    | base => exact absurd trivial hvalue
    | defaultRole => exact absurd trivial hvalue
    | scope =>
      rw [GroupSearchParts.set_self]
      cases value with
      | scope s => exact absurd ⟨s, rfl⟩ hvalue
      | _ => rfl
    | upperCase =>
      rw [GroupSearchParts.set_self, GroupSearchParts.set_of_ne (by decide), hscope]
      cases value with
      | bool b => exact absurd ⟨b, rfl⟩ hvalue
      | _ => rfl
    | _ => exact absurd hnull hvalue

/-- A failure refuses a configuration and quotes these values: it is a mistake of configuration if
all of them have a text, and else that one of them has none. -/
def IsRefusal (quoted : List Value) (failure : Failure) : Prop :=
  if quoted.all Value.isWritable then ∃ fault, failure = .configuration fault
  else failure = .unwritable

theorem isRefusal_quoting (quoted : List Value) (fault : ConfigurationFault) :
    IsRefusal quoted (.quoting quoted (.configuration fault)) := by
  unfold IsRefusal Failure.quoting
  by_cases hwritable : quoted.all Value.isWritable = true
  · rw [if_pos hwritable, if_pos hwritable]
    exact ⟨fault, rfl⟩
  · rw [if_neg hwritable, if_neg hwritable]

/-! ## Decisions -/

/-- The decision about a configuration: it is refused, quoting these values, or made of the given
parts. -/
inductive Decided (refused : Prop) (quoted : List Value) (parts : GroupSearchParts) :
    Except Failure GroupSearch → Prop
  | refusing (h : refused) (fault : ConfigurationFault) :
      Decided refused quoted parts (.error (.quoting quoted (.configuration fault)))
  | making (h : ¬ refused) {config : GroupSearch} (hparts : config.get = parts) :
      Decided refused quoted parts (.ok config)

namespace Decided

variable {refused : Prop} {quoted : List Value} {parts : GroupSearchParts}
  {result : Except Failure GroupSearch}

theorem fails_iff (h : Decided refused quoted parts result) :
    (∃ failure, result = .error failure) ↔ refused := by
  cases h with
  | refusing h fault => exact ⟨fun _ => h, fun _ => ⟨_, rfl⟩⟩
  | making h hparts =>
    constructor
    · rintro ⟨failure, hfailure⟩
      cases hfailure
    · exact fun hrefused => absurd hrefused h

theorem isRefusal (h : Decided refused quoted parts result) {failure : Failure}
    (hresult : result = .error failure) : IsRefusal quoted failure := by
  cases h with
  | refusing h fault =>
    cases hresult
    exact isRefusal_quoting quoted fault
  | making h hparts => cases hresult

theorem get_eq (h : Decided refused quoted parts result) {config : GroupSearch}
    (hresult : result = .ok config) : config.get = parts := by
  cases h with
  | refusing h fault => cases hresult
  | making h hparts =>
    cases hresult
    exact hparts

theorem of_iff {other : Prop} (h : Decided refused quoted parts result) (hiff : other ↔ refused) :
    Decided other quoted parts result := by
  cases h with
  | refusing h fault => exact .refusing (hiff.2 h) fault
  | making h hparts => exact .making (fun hother => h (hiff.1 hother)) hparts

/-- It only matters what is quoted if the configuration is refused. -/
theorem requote {other : List Value} (h : Decided refused quoted parts result)
    (hquoted : refused → quoted = other) : Decided refused other parts result := by
  cases h with
  | refusing h fault =>
    obtain rfl := hquoted h
    exact .refusing h fault
  | making h hparts => exact .making h hparts

/-- A value is required first, and quoted nowhere if it is absent; the decision is then about a
value that is there. -/
theorem require (h : Decided refused quoted parts result) (value : Value) (part : Required) :
    Decided (value = .null ∨ refused) (if value.isPresent then quoted else []) parts
      (GrantedRoles.require value part >>= fun _ => result) := by
  by_cases hvalue : value = .null
  · subst hvalue
    exact .refusing (Or.inl rfl) _
  · rw [GrantedRoles.require, if_pos (Value.isPresent_iff.2 hvalue),
      if_pos (Value.isPresent_iff.2 hvalue)]
    exact h.of_iff ⟨fun hrefused => hrefused.resolve_left hvalue, Or.inr⟩

end Decided

/-! ## Drafts -/

namespace GroupSearchDraft

/-- One part of a draft. -/
def get (draft : GroupSearchDraft) : GroupSearchParts
  | .base => draft.base
  | .filter => draft.filter
  | .roleAttribute => draft.roleAttribute
  | .scope => draft.scope
  | .rolePrefix => draft.rolePrefix
  | .upperCase => draft.upperCase
  | .defaultRole => draft.defaultRole

theorem get_set (draft : GroupSearchDraft) (field : GroupSearchField) (value : Value) :
    (draft.set field value).get = draft.get.set field value := by
  funext other
  cases field <;> cases other <;> rfl

/-- The draft of a configuration has its parts. -/
theorem get_draft (config : GroupSearch) : config.draft.get = config.get := by
  funext field
  cases field <;> rfl

/-- Validating changes no part, and refuses as a mistake of configuration. -/
theorem validate_outcome (draft : GroupSearchDraft) :
    (∃ config, draft.validate = .ok config ∧ config.get = draft.get) ∨
      ∃ fault, draft.validate = .error (.quoting draft.get.quoted (.configuration fault)) := by
  have habsent (field : GroupSearchField) (hfield : field ∈ GroupSearchField.required)
      (h : ¬ (draft.get field).isPresent = true) (part : Required) :
      ∃ fault, (.error (.absent part) : Except Failure GroupSearch)
        = .error (.quoting draft.get.quoted (.configuration fault)) := by
    rw [GroupSearchParts.quoted_of_absent hfield (Classical.not_not.1 (mt Value.isPresent_iff.2 h))]
    exact ⟨.absent part, rfl⟩
  -- The tests of `validate`, in its order; what is absent is refused before anything is quoted.
  unfold validate
  split
  case isFalse h => exact Or.inr (habsent .filter (by decide) h _)
  next hfilter =>
  split
  case isFalse h => exact Or.inr (habsent .roleAttribute (by decide) h _)
  next hattribute =>
  split
  case isFalse h => exact Or.inr (habsent .scope (by decide) h _)
  next hscope =>
  split
  case isFalse h => exact Or.inr (habsent .rolePrefix (by decide) h _)
  next hprefix =>
  split
  case isFalse h => exact Or.inr (habsent .upperCase (by decide) h _)
  next hupper =>
  have hall : (GroupSearchField.required.all fun field => (draft.get field).isPresent) = true := by
    simp [GroupSearchField.required, get, hfilter, hattribute, hscope, hprefix, hupper]
  rw [GroupSearchParts.quoted, if_pos hall]
  cases hs : draft.scope with
  | scope s =>
    cases hu : draft.upperCase with
    | bool b =>
      refine Or.inl ⟨_, rfl, ?_⟩
      funext field
      cases field with
      | scope => exact hs.symm
      | upperCase => exact hu.symm
      | _ => rfl
    | _ => exact Or.inr ⟨_, by simp only [get, hs, hu]; rfl⟩
  | _ => exact Or.inr ⟨_, by simp only [get, hs]; rfl⟩

theorem exists_validate_of_lawful {draft : GroupSearchDraft} (h : Lawful draft.get) :
    ∃ config, draft.validate = .ok config := by
  have hfilter : draft.filter.isPresent = true := Value.isPresent_iff.2 (h .filter)
  have hattribute : draft.roleAttribute.isPresent = true :=
    Value.isPresent_iff.2 (h .roleAttribute)
  have hprefix : draft.rolePrefix.isPresent = true := Value.isPresent_iff.2 (h .rolePrefix)
  obtain ⟨s, hscope⟩ : ∃ s, draft.scope = .scope s := h .scope
  obtain ⟨b, hupper⟩ : ∃ b, draft.upperCase = .bool b := h .upperCase
  have hscoped : draft.scope.isPresent = true := by rw [hscope]; rfl
  have hflagged : draft.upperCase.isPresent = true := by rw [hupper]; rfl
  rw [validate, dif_pos hfilter, dif_pos hattribute, if_pos hscoped, dif_pos hprefix,
    if_pos hflagged, hscope, hupper]
  exact ⟨_, rfl⟩

/-- A draft makes a configuration of its parts if they are lawful, and none if they are not. -/
theorem validate_decided (draft : GroupSearchDraft) :
    Decided (¬ Lawful draft.get) draft.get.quoted draft.get draft.validate := by
  -- A result is a configuration and thereby lawful; a refusal must come from unlawful parts.
  rcases draft.validate_outcome with ⟨config, hvalid, hparts⟩ | ⟨fault, hrefused⟩
  · rw [hvalid]
    refine .making ?_ hparts
    rw [← hparts]
    exact not_not_intro config.lawful
  · rw [hrefused]
    refine .refusing ?_ fault
    intro hlawful
    obtain ⟨config, hvalid⟩ := exists_validate_of_lawful hlawful
    rw [hrefused] at hvalid
    cases hvalid

end GroupSearchDraft

/-- A configuration with one part changed is refused only for the value of that part, which is what
is quoted: the others have passed before. -/
theorem GroupSearch.store_decided (config : GroupSearch) (field : GroupSearchField)
    (value : Value) :
    Decided (¬ field.Admits value) value.quotation (GroupSearchParts.set config.get field value)
      (config.draft.set field value).validate := by
  have h := (config.draft.set field value).validate_decided
  rw [GroupSearchDraft.get_set, GroupSearchDraft.get_draft] at h
  exact (h.of_iff (not_congr (config.lawful.set_iff field value)).symm).requote
    config.lawful.quoted_set

/-! ## Arguments -/

namespace Assoc

/-- Arguments name each keyword once, and only keywords of a list. -/
structure Names (arguments : Assoc Value) (keywords : List String) : Prop where
  once : arguments.keys.Nodup
  known : ∀ key ∈ arguments.keys, key ∈ keywords

/-- What is given for a part: the argument under its keyword, or what is there otherwise. -/
def partsOr (arguments : Assoc Value) (parts : GroupSearchParts) : GroupSearchParts :=
  fun field => (arguments.get? field.keyword).getD (parts field)

theorem partsOr_put (arguments : Assoc Value) (field : GroupSearchField) (value : Value)
    (parts : GroupSearchParts) :
    (arguments.put field.keyword value).partsOr parts
      = (arguments.partsOr parts).set field value := by
  funext other
  rw [partsOr, get?_put]
  by_cases hother : other = field
  · subst hother
    rw [if_pos rfl, GroupSearchParts.set_self]
    rfl
  · rw [if_neg fun heq => hother (GroupSearchField.keyword_injective heq),
      GroupSearchParts.set_of_ne hother]
    rfl

/-- A keyword of no part says nothing about the parts. -/
theorem partsOr_erase {arguments : Assoc Value} {key : String}
    (h : ∀ field : GroupSearchField, field.keyword ≠ key) (parts : GroupSearchParts) :
    (arguments.erase key).partsOr parts = arguments.partsOr parts := by
  funext field
  rw [partsOr, get?_erase, if_neg (h field)]
  rfl

namespace Names

variable {arguments : Assoc Value} {keywords : List String} {key : String}

theorem not_mem (h : arguments.Names keywords) (hkey : key ∉ keywords) : key ∉ arguments.keys :=
  fun hmem => hkey (h.known key hmem)

theorem get?_eq_none (h : arguments.Names keywords) (hkey : key ∉ keywords) :
    arguments.get? key = none :=
  Assoc.get?_eq_none (h.not_mem hkey)

theorem put (h : arguments.Names keywords) (value : Value) (hkey : key ∉ keywords) :
    (arguments.put key value).Names (key :: keywords) := by
  have hfresh := h.not_mem hkey
  constructor
  · rw [keys_put value hfresh, List.nodup_append]
    refine ⟨h.once, List.nodup_cons.2 ⟨List.not_mem_nil, List.nodup_nil⟩, ?_⟩
    rintro k hk other hother rfl
    rw [List.mem_singleton.1 hother] at hk
    exact hfresh hk
  · intro k hk
    rw [keys_put value hfresh, List.mem_append, List.mem_singleton] at hk
    rcases hk with hk | rfl
    · exact List.mem_cons_of_mem _ (h.known k hk)
    · exact List.mem_cons_self

theorem erase (h : arguments.Names (key :: keywords)) : (arguments.erase key).Names keywords := by
  constructor
  · rw [keys_erase]
    exact h.once.filter _
  · intro k hk
    rw [keys_erase, List.mem_filter, bne_iff_ne] at hk
    exact (List.mem_cons.1 (h.known k hk.1)).resolve_left hk.2

theorem mono {more : List String} (h : arguments.Names keywords)
    (hmore : ∀ k ∈ keywords, k ∈ more) : arguments.Names more :=
  ⟨h.once, fun k hk => hmore k (h.known k hk)⟩

end Names

end Assoc

/-- Arguments that name parts set these parts. -/
theorem GroupSearchDraft.setAll_eq_ok {arguments : Assoc Value}
    (h : arguments.Names (GroupSearchField.all.map GroupSearchField.keyword))
    (draft : GroupSearchDraft) :
    ∃ merged, draft.setAll arguments = .ok merged ∧
      merged.get = arguments.partsOr draft.get := by
  induction arguments generalizing draft with
  | nil => exact ⟨draft, rfl, rfl⟩
  | cons entry rest ih =>
    obtain ⟨keyword, value⟩ := entry
    obtain ⟨hfresh, hrest⟩ := List.nodup_cons.1 h.once
    obtain ⟨hkeyword, hknown⟩ := List.forall_mem_cons.1 h.known
    obtain ⟨field, -, rfl⟩ := List.mem_map.1 hkeyword
    obtain ⟨merged, hmerged, hparts⟩ := ih ⟨hrest, hknown⟩ (draft.set field value)
    refine ⟨merged, ?_, ?_⟩
    · rw [setAll, GroupSearchField.ofKeyword?_keyword]
      exact hmerged
    · rw [hparts, get_set]
      funext other
      rw [Assoc.partsOr, Assoc.partsOr, Assoc.get?_cons]
      -- The keyword is not named again, so the part keeps the value that it is set to here.
      by_cases hother : other = field
      · subst hother
        rw [if_pos rfl, GroupSearchParts.set_self, Assoc.get?_eq_none hfresh]
        rfl
      · rw [if_neg fun heq => hother (GroupSearchField.keyword_injective heq),
          GroupSearchParts.set_of_ne hother]

/-- Keyword arguments make a configuration if what they give, with the defaults, is lawful. -/
theorem GroupSearch.ofArguments_decided {arguments : Assoc Value}
    (h : arguments.Names (GroupSearchField.all.map GroupSearchField.keyword)) :
    Decided (¬ Lawful (arguments.partsOr ({} : GroupSearchDraft).get))
      (arguments.partsOr ({} : GroupSearchDraft).get).quoted
      (arguments.partsOr ({} : GroupSearchDraft).get) (ofArguments arguments) := by
  obtain ⟨draft, hmerged, hparts⟩ := GroupSearchDraft.setAll_eq_ok h {}
  rw [ofArguments, hmerged, ← hparts]
  exact draft.validate_decided

end GrantedRoles
