import GrantedRoles.Hooks.Hierarchy
import GrantedRoles.Proofs.Hooks.Linearization

/-!
# How hierarchies grow

A class is defined exactly if its bases are known and merge to one order, which it heads
(`Hierarchy.define_eq_ok_iff`). Definitions only add classes: those that are there keep their orders
and what their instances run (`Hierarchy.Sound.classes_orderOf`), whatever is defined later. What a
class makes of the additional hook plays no part in any of this (`Hierarchy.define_plain`).
-/

set_option autoImplicit false

namespace GrantedRoles

open Linearization

/-- A definition with the additional hook left to the bases. -/
def ClassDefinition.plain (definition : ClassDefinition) : ClassDefinition :=
  { definition with additional := none }

/-- A class without what it makes of the additional hook. -/
def HookClass.plain (cls : HookClass) : HookClass := { cls with additional := none }

namespace Hierarchy

variable {h next later : Hierarchy} {definition : ClassDefinition} {c d : ClassId}

/-! ## What instances run -/

/-- What a class itself makes of the legacy hook. -/
def ownLegacy? (h : Hierarchy) (c : ClassId) : Option HookMember := (h[c]?).bind HookClass.legacy

/-- Instances of the class run the legacy hook of another, or of the class itself: the first class
in the order that has one of its own. -/
def Runs (h : Hierarchy) (c d : ClassId) (member : HookMember) : Prop :=
  ∃ before after, h.orderOf c = before ++ d :: after ∧ h.ownLegacy? d = some member ∧
    ∀ e ∈ before, h.ownLegacy? e = none

theorem findSome?_classes {α : Type} (h : Hierarchy) (order : List ClassId)
    (f : HookClass → Option α) :
    (h.classes order).findSome? f = order.findSome? fun d => (h[d]?).bind f := by
  unfold classes
  induction order with
  | nil => rfl
  | cons d rest ih =>
    cases hd : h[d]? with
    | none => simp [hd, ih]
    | some cls =>
      rw [List.filterMap_cons, List.findSome?_cons, hd]
      simp only [List.findSome?_cons, Option.bind_some, ih]

/-- The lookup finds the class whose legacy hook is run. -/
theorem legacyMember?_eq_some_iff {cls : HookClass} {member : HookMember} :
    h.legacyMember? c = some (cls, member) ↔ ∃ d, h[d]? = some cls ∧ h.Runs c d member := by
  unfold legacyMember?
  rw [findSome?_classes, List.findSome?_eq_some_iff]
  have hown (e : ClassId) : (h[e]?).bind (fun cls => cls.legacy.map (cls, ·)) = none ↔
      h.ownLegacy? e = none := by
    unfold ownLegacy?
    cases h[e]? <;> simp
  constructor
  · rintro ⟨before, d, after, horder, hfound, hbefore⟩
    obtain ⟨cls', hcls, hmember⟩ := Option.bind_eq_some_iff.1 hfound
    obtain ⟨member', hlegacy, heq⟩ := Option.map_eq_some_iff.1 hmember
    obtain ⟨rfl, rfl⟩ := Prod.mk.inj heq
    refine ⟨d, hcls, before, after, horder, ?_, ?_⟩
    · rw [ownLegacy?, hcls]
      exact hlegacy
    · intro e he
      exact (hown e).1 (hbefore e he)
  · rintro ⟨d, hcls, before, after, horder, hmember, hbefore⟩
    refine ⟨before, d, after, horder, ?_, ?_⟩
    · rw [ownLegacy?, hcls, Option.bind_some] at hmember
      simp [hcls, hmember]
    · intro e he
      exact (hown e).2 (hbefore e he)

/-- The instances of a class run one legacy hook at most. -/
theorem Runs.unique {d' : ClassId} {member member' : HookMember} (hruns : h.Runs c d member)
    (hruns' : h.Runs c d' member') : member = member' := by
  obtain ⟨before, after, horder, hmember, hbefore⟩ := hruns
  obtain ⟨before', after', horder', hmember', hbefore'⟩ := hruns'
  have hne : h.ownLegacy? d ≠ none := by simp [hmember]
  have hne' : h.ownLegacy? d' ≠ none := by simp [hmember']
  -- Neither of the two classes is before the other in the order.
  rw [horder] at horder'
  rcases List.append_eq_append_iff.1 horder' with ⟨middle, rfl, hrest⟩ | ⟨middle, rfl, hrest⟩
  · cases middle with
    | nil =>
      obtain ⟨rfl, -⟩ := List.cons.inj hrest
      exact Option.some.inj (hmember.symm.trans hmember')
    | cons first middle =>
      obtain ⟨rfl, -⟩ := List.cons.inj hrest
      exact absurd (hbefore' d (by simp)) hne
  · cases middle with
    | nil =>
      obtain ⟨rfl, -⟩ := List.cons.inj hrest
      exact Option.some.inj (hmember.symm.trans hmember')
    | cons first middle =>
      obtain ⟨rfl, -⟩ := List.cons.inj hrest
      exact absurd (hbefore d' (by simp)) hne'

/-! ## One definition -/

/-- The class that a definition adds, with what it inherits. -/
def added (h : Hierarchy) (definition : ClassDefinition) (inherited : List ClassId) : HookClass :=
  ⟨definition.name, definition.legacy, definition.additional, h.length :: inherited⟩

theorem eraseDups_of_nodup {ids : List ClassId} (hnodup : ids.Nodup) : ids.eraseDups = ids := by
  induction ids with
  | nil => rfl
  | cons first rest ih =>
    obtain ⟨hfresh, hrest⟩ := List.nodup_cons.1 hnodup
    have hkept : rest.filter (fun d => !d == first) = rest := by
      rw [List.filter_eq_self]
      rintro d hd
      have hne : d ≠ first := fun heq => hfresh (heq ▸ hd)
      simp [hne]
    rw [List.eraseDups_cons, hkept, ih hrest]

/-- **A class is defined exactly if** its bases are known, its name is one and the bases merge with
their orders; it gets the next number and heads what they merge to. -/
theorem define_eq_ok_iff :
    h.define definition = .ok (next, c) ↔ ∃ bases inherited,
      h.findAll definition.bases = .ok bases ∧ '\x00' ∉ definition.name.toList ∧
      Merges (bases.map h.orderOf ++ [bases]) inherited ∧
      next = h ++ [h.added definition inherited] ∧ c = h.length := by
  unfold define
  constructor
  · intro hdefine
    split at hdefine
    · cases hdefine
    · next bases hbases =>
      split at hdefine
      · cases hdefine
      · next hname =>
        split at hdefine
        · cases hdefine
        · split at hdefine
          · cases hdefine
          · next inherited hmerge =>
            cases hdefine
            refine ⟨bases, inherited, hbases, ?_, merge_eq_some_iff.1 hmerge, rfl, rfl⟩
            rwa [List.contains_iff_mem] at hname
  · rintro ⟨bases, inherited, hbases, hname, hmerges, rfl, rfl⟩
    -- Bases that merge are different.
    have hnodup : bases.Nodup := hmerges.nodup.sublist (hmerges.sublist (by simp))
    rw [hbases]
    simp only [List.contains_iff_mem, hname, eraseDups_of_nodup hnodup, Nat.lt_irrefl, if_false,
      merge_eq_some_iff.2 hmerges]
    rfl

/-- A defined class is found under its number. -/
theorem added_of_define (hdefine : h.define definition = .ok (next, c)) :
    ∃ bases inherited, h.findAll definition.bases = .ok bases ∧
      Merges (bases.map h.orderOf ++ [bases]) inherited ∧
      next[c]? = some (h.added definition inherited) ∧ c = h.length := by
  obtain ⟨bases, inherited, hbases, -, hmerges, rfl, rfl⟩ := define_eq_ok_iff.1 hdefine
  exact ⟨bases, inherited, hbases, hmerges, List.getElem?_concat_length, rfl⟩

/-- Whether a class can be defined is a question of whether the orders agree. -/
theorem exists_define_iff :
    (∃ next c, h.define definition = .ok (next, c)) ↔ ∃ bases,
      h.findAll definition.bases = .ok bases ∧ '\x00' ∉ definition.name.toList ∧
      Agree (bases.map h.orderOf ++ [bases]) := by
  constructor
  · rintro ⟨next, c, hdefine⟩
    obtain ⟨bases, inherited, hbases, hname, hmerges, -, -⟩ := define_eq_ok_iff.1 hdefine
    exact ⟨bases, hbases, hname, exists_merges_iff.1 ⟨inherited, hmerges⟩⟩
  · rintro ⟨bases, hbases, hname, hagree⟩
    obtain ⟨inherited, hmerges⟩ := exists_merges_iff.2 hagree
    exact ⟨_, _, define_eq_ok_iff.2 ⟨bases, inherited, hbases, hname, hmerges, rfl, rfl⟩⟩

/-- The hierarchy after a definition, which changes nothing if it is refused. -/
def extend (h : Hierarchy) (definition : ClassDefinition) : Hierarchy :=
  match h.define definition with
  | .ok (next, _) => next
  | .error _ => h

/-- The hierarchy after definitions. -/
def extendAll (h : Hierarchy) (definitions : List ClassDefinition) : Hierarchy :=
  definitions.foldl extend h

/-! ## Sound hierarchies -/

/-- `RoleHooks` comes first, and a class heads an order of classes that were defined before it. -/
structure Sound (h : Hierarchy) : Prop where
  root : h[rootId]? = some Hierarchy.root
  order : ∀ (c : ClassId) (cls : HookClass), h[c]? = some cls →
    ∃ inherited, cls.order = c :: inherited ∧ ∀ d ∈ inherited, d < c

theorem sound_initial : initial.Sound where
  root := rfl
  order := by
    intro c cls hcls
    cases c with
    | zero =>
      cases hcls
      exact ⟨[], rfl, by simp⟩
    | succ c => cases hcls

theorem orderOf_eq {cls : HookClass} (hcls : h[c]? = some cls) : h.orderOf c = cls.order := by
  rw [orderOf, hcls]
  rfl

/-- The order of a class has classes of the hierarchy. -/
theorem Sound.lt_of_mem_orderOf (hsound : h.Sound) (hd : d ∈ h.orderOf c) : d < h.length := by
  cases hcls : h[c]? with
  | none =>
    rw [orderOf, hcls] at hd
    cases hd
  | some cls =>
    have hc : c < h.length := (List.getElem?_eq_some_iff.1 hcls).1
    obtain ⟨inherited, horder, hbefore⟩ := hsound.order c cls hcls
    rw [orderOf_eq hcls, horder] at hd
    rcases List.mem_cons.1 hd with rfl | hd
    · exact hc
    · exact Nat.lt_trans (hbefore d hd) hc

theorem lt_of_find? {name : String} (hfound : h.find? name = some c) : c < h.length := by
  obtain ⟨⟨cls, c'⟩, hentry, rfl⟩ := Option.map_eq_some_iff.1 hfound
  have hmem := List.mem_reverse.1 (List.mem_of_find?_eq_some hentry)
  have hget := List.mem_zipIdx_iff_getElem?.1 hmem
  exact (List.getElem?_eq_some_iff.1 hget).1

theorem lt_of_mem_findAll {names : List String} {bases : List ClassId}
    (hfound : h.findAll names = .ok bases) : ∀ b ∈ bases, b < h.length := by
  induction names generalizing bases with
  | nil =>
    cases hfound
    simp
  | cons name rest ih =>
    rw [findAll] at hfound
    cases hname : h.find? name with
    | none =>
      rw [hname] at hfound
      cases hfound
    | some b =>
      rw [hname] at hfound
      cases hrest : h.findAll rest with
      | error failure =>
        simp only [hrest] at hfound
        cases hfound
      | ok others =>
        simp only [hrest] at hfound
        cases hfound
        exact List.forall_mem_cons.2 ⟨lt_of_find? hname, ih hrest⟩

/-- A class of a longer hierarchy was there before or is the one behind the others. -/
theorem getElem?_concat {last cls : HookClass} (hcls : (h ++ [last])[c]? = some cls) :
    h[c]? = some cls ∨ (c = h.length ∧ cls = last) := by
  rcases Nat.lt_trichotomy c h.length with hc | rfl | hc
  · rw [List.getElem?_append_left hc] at hcls
    exact Or.inl hcls
  · rw [List.getElem?_concat_length] at hcls
    exact Or.inr ⟨rfl, (Option.some.inj hcls).symm⟩
  · have hlength : (h ++ [last]).length ≤ c := by
      rw [List.length_append]
      exact hc
    rw [List.getElem?_eq_none hlength] at hcls
    cases hcls

/-- A definition adds one class behind the others. -/
theorem longer_of_define (hdefine : h.define definition = .ok (next, c)) : h <+: next := by
  obtain ⟨_, _, -, -, -, rfl, -⟩ := define_eq_ok_iff.1 hdefine
  exact List.prefix_append _ _

theorem Sound.define (hsound : h.Sound) (hdefine : h.define definition = .ok (next, c)) :
    next.Sound := by
  obtain ⟨bases, inherited, hbases, -, hmerges, rfl, rfl⟩ := define_eq_ok_iff.1 hdefine
  have hlt : rootId < h.length := (List.getElem?_eq_some_iff.1 hsound.root).1
  constructor
  · rw [List.getElem?_append_left hlt]
    exact hsound.root
  · intro c cls hcls
    rcases getElem?_concat hcls with hcls | ⟨rfl, rfl⟩
    · exact hsound.order c cls hcls
    · refine ⟨inherited, rfl, ?_⟩
      intro d hd
      -- What is inherited is in the order of a base, or a base itself.
      obtain ⟨list, hlist, hmem⟩ := hmerges.mem_iff.1 hd
      rcases List.mem_append.1 hlist with hlist | hlist
      · obtain ⟨b, -, rfl⟩ := List.mem_map.1 hlist
        exact hsound.lt_of_mem_orderOf hmem
      · rw [List.mem_singleton.1 hlist] at hmem
        exact lt_of_mem_findAll hbases d hmem

theorem Sound.extend (hsound : h.Sound) (definition : ClassDefinition) :
    (h.extend definition).Sound := by
  unfold Hierarchy.extend
  split
  · next hdefine => exact hsound.define hdefine
  · exact hsound

theorem longer_extend (h : Hierarchy) (definition : ClassDefinition) :
    h <+: h.extend definition := by
  unfold Hierarchy.extend
  split
  · next hdefine => exact longer_of_define hdefine
  · exact List.prefix_rfl

/-- Whatever is defined, the hierarchy stays sound and keeps the classes that it has. -/
theorem Sound.extendAll (hsound : h.Sound) (definitions : List ClassDefinition) :
    (h.extendAll definitions).Sound ∧ h <+: h.extendAll definitions := by
  induction definitions generalizing h with
  | nil => exact ⟨hsound, List.prefix_rfl⟩
  | cons definition rest ih =>
    obtain ⟨hsound', hlonger⟩ := ih (hsound.extend definition)
    exact ⟨hsound', (h.longer_extend definition).trans hlonger⟩

theorem getElem?_of_longer (hlonger : h <+: later) (hc : c < h.length) : later[c]? = h[c]? := by
  obtain ⟨more, rfl⟩ := hlonger
  exact List.getElem?_append_left hc

theorem orderOf_of_longer (hlonger : h <+: later) (hc : c < h.length) :
    later.orderOf c = h.orderOf c := by
  rw [orderOf, orderOf, getElem?_of_longer hlonger hc]

/-- The order of a class and the classes in it stay what they are. -/
theorem Sound.classes_orderOf (hsound : h.Sound) (hlonger : h <+: later) (hc : c < h.length) :
    later.classes (later.orderOf c) = h.classes (h.orderOf c) := by
  rw [orderOf_of_longer hlonger hc]
  apply List.filterMap_congr
  intro d hd
  exact getElem?_of_longer hlonger (hsound.lt_of_mem_orderOf hd)

/-- So does what its instances run. -/
theorem Sound.legacyMember?_of_longer (hsound : h.Sound) (hlonger : h <+: later)
    (hc : c < h.length) : later.legacyMember? c = h.legacyMember? c := by
  rw [legacyMember?, legacyMember?, hsound.classes_orderOf hlonger hc]

/-! ## The additional hook plays no part -/

/-- The hierarchy without what its classes make of the additional hook. -/
def plain (h : Hierarchy) : Hierarchy := h.map HookClass.plain

theorem getElem?_plain (h : Hierarchy) (c : ClassId) : h.plain[c]? = (h[c]?).map HookClass.plain :=
  List.getElem?_map

theorem orderOf_plain (h : Hierarchy) (c : ClassId) : h.plain.orderOf c = h.orderOf c := by
  rw [orderOf, orderOf, getElem?_plain]
  cases h[c]? <;> rfl

theorem find?_plain (h : Hierarchy) (name : String) : h.plain.find? name = h.find? name := by
  unfold find? plain
  rw [List.zipIdx_map, ← List.map_reverse, List.find?_map, Option.map_map]
  rfl

theorem findAll_plain (h : Hierarchy) (names : List String) :
    h.plain.findAll names = h.findAll names := by
  induction names with
  | nil => rfl
  | cons name rest ih => rw [findAll, findAll, find?_plain, ih]

/-- A definition adds the same class and succeeds or fails alike, whatever classes make of the
additional hook. -/
theorem define_plain (h : Hierarchy) (definition : ClassDefinition) :
    h.plain.define definition.plain
      = (h.define definition).map fun result => (result.1.plain, result.2) := by
  have horders : h.plain.orderOf = h.orderOf := funext h.orderOf_plain
  unfold define
  simp only [findAll_plain, horders, ClassDefinition.plain]
  cases h.findAll definition.bases with
  | error failure => rfl
  | ok bases =>
    simp only
    split
    · rfl
    · split
      · rfl
      · cases merge (bases.map h.orderOf ++ [bases]) with
        | none => rfl
        | some inherited =>
          simp [plain, HookClass.plain, Except.map]

theorem extend_plain (h : Hierarchy) (definition : ClassDefinition) :
    h.plain.extend definition.plain = (h.extend definition).plain := by
  unfold extend
  rw [define_plain]
  cases h.define definition <;> rfl

theorem extendAll_plain (h : Hierarchy) (definitions : List ClassDefinition) :
    h.plain.extendAll (definitions.map ClassDefinition.plain)
      = (h.extendAll definitions).plain := by
  induction definitions generalizing h with
  | nil => rfl
  | cons definition rest ih =>
    have hrest := ih (h.extend definition)
    rw [← extend_plain] at hrest
    exact hrest

/-- What instances run is run whatever classes make of the additional hook. -/
theorem legacyMember?_plain (h : Hierarchy) (c : ClassId) :
    h.plain.legacyMember? c
      = (h.legacyMember? c).map fun found => (found.1.plain, found.2) := by
  unfold legacyMember?
  rw [findSome?_classes, findSome?_classes, orderOf_plain]
  induction h.orderOf c with
  | nil => rfl
  | cons d rest ih =>
    rw [List.findSome?_cons, List.findSome?_cons, getElem?_plain, ih]
    cases hd : h[d]? with
    | none => rfl
    | some cls =>
      simp only [Option.map_some, Option.bind_some]
      have hlegacy : cls.plain.legacy = cls.legacy := rfl
      rw [hlegacy]
      cases cls.legacy <;> rfl

end Hierarchy

end GrantedRoles
