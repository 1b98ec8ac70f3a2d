import GrantedRoles.Proofs.GroupSearch.Validity
import Mathlib.Data.List.Basic
import Mathlib.Data.List.Induction

/-!
# Modifiers as setters

A modifier checks its value, puts it into a copy of the whole configuration and validates that copy.
Whether it is accepted depends on the modifier alone (`GroupSearch.accepted_eq`), and an accepted
one sets its part and no other. So several attempts in a row come to one equation: each part has
what the last accepted modifier of it stores, and what it had before if there is none
(`GroupSearch.get_modifyAll`). The laws of setters follow from this equation; that a configuration
in hand outlives all attempts to change it is seen where several are in hand at once
(`GroupSearch.attemptAll_append`).
-/

set_option autoImplicit false

namespace GrantedRoles

/-! ## Parts -/

namespace GroupSearchParts

/-- Setting a part to what it is changes nothing. -/
theorem set_self_eq (parts : GroupSearchParts) (field : GroupSearchField) :
    parts.set field (parts field) = parts := by
  funext other
  by_cases hother : other = field
  · rw [hother, set_self]
  · rw [set_of_ne hother]

end GroupSearchParts

/-- A configuration is known by its parts. -/
theorem GroupSearch.get_injective {config other : GroupSearch} (h : config.get = other.get) :
    config = other := by
  have hbase := congrFun h .base
  have hfilter := congrFun h .filter
  have hattribute := congrFun h .roleAttribute
  have hscope := congrFun h .scope
  have hprefix := congrFun h .rolePrefix
  have hupper := congrFun h .upperCase
  have hdefault := congrFun h .defaultRole
  cases config
  cases other
  simp only [get, Value.scope.injEq, Value.bool.injEq] at *
  subst hbase hfilter hattribute hscope hprefix hupper hdefault
  rfl

namespace GroupSearch

/-! ## One attempt -/

/-- A modifier that is not refused sets its part; one that is refused leaves the configuration in
hand. -/
theorem modify_cases (config : GroupSearch) (modifier : Modifier) :
    (modifier.Refused ∧ ∃ failure, config.modify modifier = .error failure) ∨
      (¬ modifier.Refused ∧ ∃ changed, config.modify modifier = .ok changed ∧
        changed.get = GroupSearchParts.set config.get modifier.field modifier.stored) := by
  have hdecided := config.modify_decided modifier
  cases hmodify : config.modify modifier with
  | error failure => exact Or.inl ⟨hdecided.fails_iff.1 ⟨failure, hmodify⟩, failure, rfl⟩
  | ok changed =>
    refine Or.inr ⟨?_, changed, rfl, hdecided.get_eq hmodify⟩
    intro hrefused
    obtain ⟨failure, hfails⟩ := hdecided.fails_iff.2 hrefused
    rw [hmodify] at hfails
    cases hfails

theorem modifyOrKeep_of_ok {config changed : GroupSearch} {modifier : Modifier}
    (h : config.modify modifier = .ok changed) : config.modifyOrKeep modifier = changed := by
  rw [modifyOrKeep, h]

theorem modifyOrKeep_of_error {config : GroupSearch} {modifier : Modifier} {failure : Failure}
    (h : config.modify modifier = .error failure) : config.modifyOrKeep modifier = config := by
  rw [modifyOrKeep, h]

/-- An attempt with what a part already holds leaves the configuration as it is, accepted or not. -/
theorem modifyOrKeep_of_stored_eq {config : GroupSearch} {modifier : Modifier}
    (h : modifier.stored = config.get modifier.field) : config.modifyOrKeep modifier = config := by
  rcases config.modify_cases modifier with ⟨-, failure, hfails⟩ | ⟨-, changed, hmodify, hget⟩
  · exact modifyOrKeep_of_error hfails
  · rw [modifyOrKeep_of_ok hmodify]
    apply get_injective
    rw [hget, h, GroupSearchParts.set_self_eq]

/-- Attempted again, an accepted modifier is accepted and changes nothing. -/
theorem modify_again {config changed : GroupSearch} {modifier : Modifier}
    (h : config.modify modifier = .ok changed) : changed.modify modifier = .ok changed := by
  have hdecided := config.modify_decided modifier
  have hstored : modifier.stored = changed.get modifier.field := by
    rw [hdecided.get_eq h, GroupSearchParts.set_self]
  rcases changed.modify_cases modifier with ⟨hrefused, -⟩ | ⟨-, again, hagain, -⟩
  · obtain ⟨failure, hfails⟩ := hdecided.fails_iff.2 hrefused
    rw [h] at hfails
    cases hfails
  · have hkept := modifyOrKeep_of_stored_eq hstored
    rw [modifyOrKeep_of_ok hagain] at hkept
    rw [hagain, hkept]

/-! ## Several attempts -/

/-- The modifiers that are accepted, of those that are attempted one after the other. -/
def accepted (config : GroupSearch) : List Modifier → List Modifier
  | [] => []
  | modifier :: rest =>
      match config.modify modifier with
      | .ok changed => modifier :: changed.accepted rest
      | .error _ => config.accepted rest

/-- What the last modifier of a part stores. -/
def lastStored? (field : GroupSearchField) (modifiers : List Modifier) : Option Value :=
  (modifiers.filter (·.field = field)).getLast?.map Modifier.stored

open Classical in
/-- Which modifiers are accepted does not depend on the configuration in hand. -/
theorem accepted_eq (config : GroupSearch) (modifiers : List Modifier) :
    config.accepted modifiers = modifiers.filter fun modifier => ¬ modifier.Refused := by
  induction modifiers generalizing config with
  | nil => rfl
  | cons modifier rest ih =>
    rw [accepted, List.filter_cons]
    rcases config.modify_cases modifier with
      ⟨hrefused, failure, hfails⟩ | ⟨hkept, changed, hmodify, -⟩
    · simp only [hfails, hrefused, not_true_eq_false, decide_false, Bool.false_eq_true, if_false]
      exact ih config
    · simp only [hmodify, hkept, not_false_eq_true, decide_true, if_true]
      exact congrArg (modifier :: ·) (ih changed)

theorem lastStored?_append (field : GroupSearchField) (modifiers more : List Modifier) :
    lastStored? field (modifiers ++ more)
      = (lastStored? field more).or (lastStored? field modifiers) := by
  unfold lastStored?
  rw [List.filter_append, List.getLast?_append, Option.map_or]

/-- A modifier is the last of its part if no other follows. -/
theorem lastStored?_singleton (field : GroupSearchField) (modifier : Modifier) :
    lastStored? field [modifier] = if modifier.field = field then some modifier.stored else none := by
  unfold lastStored?
  by_cases hfield : modifier.field = field <;> simp [hfield]

/-- **Several attempts as setters.** A part has what the last accepted modifier of it stores, and
what it had before if none of it is accepted. -/
theorem get_modifyAll (config : GroupSearch) (modifiers : List Modifier)
    (field : GroupSearchField) :
    (config.modifyAll modifiers).get field
      = (lastStored? field (config.accepted modifiers)).getD (config.get field) := by
  induction modifiers generalizing config with
  | nil => rfl
  | cons modifier rest ih =>
    change ((config.modifyOrKeep modifier).modifyAll rest).get field = _
    rw [ih, accepted]
    rcases config.modify_cases modifier with ⟨-, failure, hfails⟩ | ⟨-, changed, hmodify, hget⟩
    · rw [modifyOrKeep_of_error hfails, hfails]
    · rw [modifyOrKeep_of_ok hmodify, hmodify, hget]
      -- Later modifiers of the part go before this one.
      change _ = (lastStored? field ([modifier] ++ changed.accepted rest)).getD _
      rw [lastStored?_append, lastStored?_singleton]
      cases lastStored? field (changed.accepted rest) with
      | some value => rfl
      | none =>
        by_cases hfield : field = modifier.field
        · subst hfield
          simp
        · simp [Ne.symm hfield, GroupSearchParts.set_of_ne hfield]

/-- Attempts with the same modifiers of each part, in the same order, come to the same, however
those of different parts stand among each other. -/
theorem modifyAll_eq_of_filter_eq (config : GroupSearch) {modifiers others : List Modifier}
    (h : ∀ field : GroupSearchField,
      modifiers.filter (·.field = field) = others.filter (·.field = field)) :
    config.modifyAll modifiers = config.modifyAll others := by
  apply get_injective
  funext field
  rw [get_modifyAll, get_modifyAll]
  unfold lastStored?
  rw [accepted_eq, accepted_eq, List.filter_comm, List.filter_comm (l := others), h field]

/-- An accepted modifier leaves nothing of an earlier one of its part. -/
theorem modifyAll_override (config : GroupSearch) {first last : Modifier}
    (hfield : first.field = last.field) (hlast : ¬ last.Refused)
    (before between after : List Modifier) :
    config.modifyAll (before ++ [first] ++ between ++ [last] ++ after)
      = config.modifyAll (before ++ between ++ [last] ++ after) := by
  have hkept : config.accepted [last] = [last] := by
    rw [accepted_eq]
    exact List.filter_cons_of_pos (by simpa using hlast)
  have hearlier (field : GroupSearchField) (hother : last.field ≠ field) :
      lastStored? field (config.accepted [first]) = none := by
    rcases config.modify_cases first with ⟨-, failure, hfails⟩ | ⟨-, changed, hmodify, -⟩
    · rw [accepted, hfails]
      rfl
    · rw [accepted, hmodify]
      exact (lastStored?_singleton field first).trans (if_neg (hfield.trans_ne hother))
  apply get_injective
  funext field
  rw [get_modifyAll, get_modifyAll]
  have happend (modifiers more : List Modifier) :
      config.accepted (modifiers ++ more) = config.accepted modifiers ++ config.accepted more := by
    rw [accepted_eq, accepted_eq, accepted_eq, List.filter_append]
  simp only [happend, lastStored?_append, hkept, lastStored?_singleton]
  -- The part is the one of the two, and the later one hides the earlier; or the earlier one is not
  -- of it.
  by_cases hpart : last.field = field
  · simp [hpart]
  · simp [hpart, hearlier field hpart]

/-! ## What no attempt can do -/

theorem stored_ne_null {modifier : Modifier} (h : ¬ modifier.Refused) :
    modifier.stored ≠ .null := by
  cases modifier with
  | subtree flag =>
    cases flag with
    | bool whole => exact fun hnull => Value.noConfusion hnull
    | _ => exact absurd (Or.inr ⟨trivial, by simp [Modifier.value]⟩) h
  | _ => exact fun hnull => h (Or.inl hnull)

/-- The base stays: no modifier is of it. -/
theorem base_modifyAll (config : GroupSearch) (modifiers : List Modifier) :
    (config.modifyAll modifiers).base = config.base := by
  have hnone : (config.accepted modifiers).filter (·.field = .base) = [] := by
    rw [List.filter_eq_nil_iff]
    intro modifier _
    cases modifier <;> simp [Modifier.field]
  have hbase := config.get_modifyAll modifiers .base
  rw [lastStored?, hnone] at hbase
  exact hbase

/-- A default role stays one, though it may become another. -/
theorem defaultRole_modifyAll_ne_null (config : GroupSearch) (modifiers : List Modifier)
    (h : config.defaultRole ≠ .null) : (config.modifyAll modifiers).defaultRole ≠ .null := by
  induction modifiers generalizing config with
  | nil => exact h
  | cons modifier rest ih =>
    apply ih
    unfold modifyOrKeep
    rcases config.modify_cases modifier with ⟨-, failure, hfails⟩ | ⟨hkept, changed, hmodify, hget⟩
    · rw [hfails]
      exact h
    · rw [hmodify]
      have hdefault := congrFun hget .defaultRole
      by_cases hfield : GroupSearchField.defaultRole = modifier.field
      · rw [← hfield, GroupSearchParts.set_self] at hdefault
        change changed.get .defaultRole ≠ .null
        rw [hdefault]
        exact stored_ne_null hkept
      · rw [GroupSearchParts.set_of_ne hfield] at hdefault
        change changed.get .defaultRole ≠ .null
        rw [hdefault]
        exact h

/-! ## Several configurations in hand -/

/-- An attempt to change one of the configurations in hand, by its number. -/
structure Attempt where
  number : Nat
  modifier : Modifier

/-- The configurations in hand after an attempt: what it makes joins them. -/
def attempt (hand : List GroupSearch) (made : Attempt) : List GroupSearch :=
  match hand[made.number]? with
  | none => hand
  | some config =>
      match config.modify made.modifier with
      | .ok changed => hand ++ [changed]
      | .error _ => hand

/-- The configurations in hand after several attempts. -/
def attemptAll (hand : List GroupSearch) (attempts : List Attempt) : List GroupSearch :=
  attempts.foldl attempt hand

/-- Attempts put nothing in the place of what is in hand. -/
theorem prefix_attemptAll (hand : List GroupSearch) (attempts : List Attempt) :
    hand <+: attemptAll hand attempts := by
  induction attempts generalizing hand with
  | nil => exact List.prefix_refl hand
  | cons made rest ih =>
    refine List.IsPrefix.trans ?_ (ih (attempt hand made))
    unfold attempt
    split
    · exact List.prefix_refl hand
    · split
      · exact List.prefix_append _ _
      · exact List.prefix_refl hand

theorem attemptAll_append (hand : List GroupSearch) (attempts more : List Attempt) :
    attemptAll hand (attempts ++ more) = attemptAll (attemptAll hand attempts) more :=
  List.foldl_append

/-- What is in hand comes of the first configuration by attempts in a row. -/
theorem exists_modifyAll_of_mem (config : GroupSearch) (attempts : List Attempt) :
    ∀ made ∈ attemptAll [config] attempts, ∃ modifiers, made = config.modifyAll modifiers := by
  induction attempts using List.reverseRecOn with
  | nil =>
    intro made hmade
    rw [List.mem_singleton.1 hmade]
    exact ⟨[], rfl⟩
  | append_singleton attempts last ih =>
    rw [attemptAll_append]
    intro made hmade
    change made ∈ attempt (attemptAll [config] attempts) last at hmade
    unfold attempt at hmade
    split at hmade
    · exact ih made hmade
    · next origin horigin =>
      split at hmade
      · next changed hmodify =>
        rw [List.mem_append, List.mem_singleton] at hmade
        rcases hmade with hmade | rfl
        · exact ih made hmade
        · -- The configuration that is changed has its own attempts; the new one has one more.
          obtain ⟨modifiers, rfl⟩ := ih origin (List.mem_of_getElem? horigin)
          refine ⟨modifiers ++ [last.modifier], ?_⟩
          rw [modifyAll, List.foldl_append]
          exact (modifyOrKeep_of_ok hmodify).symm
      · exact ih made hmade

end GroupSearch

/-! ## The laws -/

/-- However often a configuration is attempted to be changed, each part has what the last accepted
modifier of it stores, or else what it had. So modifiers of different parts may change places, the
later of two of one part hides the earlier, what a part already holds changes nothing, the base
stays, and a default role stays one. Among several configurations in hand each is what it was made
to be, by attempts in a row, and remains it whatever is attempted at it or at others. -/
theorem modifiers_set_parts (config : GroupSearch) (modifiers : List Modifier) :
    (∀ field : GroupSearchField, (config.modifyAll modifiers).get field
      = (GroupSearch.lastStored? field (config.accepted modifiers)).getD (config.get field)) ∧
    (∀ others : List Modifier,
      (∀ field : GroupSearchField,
        modifiers.filter (·.field = field) = others.filter (·.field = field)) →
      config.modifyAll others = config.modifyAll modifiers) ∧
    (∀ (first last : Modifier) (between after : List Modifier),
      first.field = last.field →
      (∃ changed, (config.modifyAll (modifiers ++ [first] ++ between)).modify last = .ok changed) →
      config.modifyAll (modifiers ++ [first] ++ between ++ [last] ++ after)
        = config.modifyAll (modifiers ++ between ++ [last] ++ after)) ∧
    (∀ modifier : Modifier,
      (modifier.stored = (config.modifyAll modifiers).get modifier.field →
        (config.modifyAll modifiers).modifyOrKeep modifier = config.modifyAll modifiers) ∧
      ∀ changed, (config.modifyAll modifiers).modify modifier = .ok changed →
        changed.modify modifier = .ok changed) ∧
    (config.modifyAll modifiers).base = config.base ∧
    (config.defaultRole ≠ .null → (config.modifyAll modifiers).defaultRole ≠ .null) ∧
    (∀ attempts more : List GroupSearch.Attempt,
      GroupSearch.attemptAll [config] attempts
        <+: GroupSearch.attemptAll [config] (attempts ++ more) ∧
      ∀ made ∈ GroupSearch.attemptAll [config] attempts,
        ∃ path, made = config.modifyAll path) := by
  refine ⟨config.get_modifyAll modifiers, ?_, ?_, ?_, config.base_modifyAll modifiers,
    config.defaultRole_modifyAll_ne_null modifiers, ?_⟩
  · intro others hsame
    exact (config.modifyAll_eq_of_filter_eq hsame).symm
  · rintro first last between after hfield ⟨changed, hmodify⟩
    apply config.modifyAll_override hfield
    intro hrefused
    obtain ⟨failure, hfails⟩ := (GroupSearch.modify_decided _ last).fails_iff.2 hrefused
    rw [hmodify] at hfails
    cases hfails
  · intro modifier
    exact ⟨GroupSearch.modifyOrKeep_of_stored_eq, fun _ => GroupSearch.modify_again⟩
  · intro attempts more
    refine ⟨?_, config.exists_modifyAll_of_mem attempts⟩
    rw [GroupSearch.attemptAll_append]
    exact GroupSearch.prefix_attemptAll _ more

/-- A refused number between two prefixes hides nothing: the later prefix stands, the flag that is
given between them too, and the two could as well be given the other way round. -/
theorem modifiers_set_parts_interleaved :
    let modifiers : List Modifier :=
      [.rolePrefix (.text "A_"), .upperCase (.int 1), .subtree (.bool true),
        .rolePrefix (.text "B_"), .rolePrefix .null]
    let config := ({} : GroupSearch)
    (config.modifyAll modifiers).get .rolePrefix = .text "B_" ∧
      (config.modifyAll modifiers).get .scope = .scope .subtree ∧
      (config.modifyAll modifiers).get .upperCase = .bool true ∧
      config.modifyAll [.rolePrefix (.text "A_"), .rolePrefix (.text "B_"), .rolePrefix .null,
        .subtree (.bool true), .upperCase (.int 1)] = config.modifyAll modifiers ∧
      config.modifyAll [.rolePrefix (.text "A_"), .rolePrefix (.text "B_")]
        = config.modifyAll [.rolePrefix (.text "B_")] := by
  intro modifiers config
  obtain ⟨hparts, hplaces, -⟩ := modifiers_set_parts config modifiers
  obtain ⟨-, -, hhides, -⟩ := modifiers_set_parts config []
  refine ⟨hparts .rolePrefix, hparts .scope, hparts .upperCase, hplaces _ ?_, ?_⟩
  · intro field
    cases field <;> rfl
  · exact hhides (.rolePrefix (.text "A_")) (.rolePrefix (.text "B_")) [] [] rfl ⟨_, rfl⟩

end GrantedRoles
