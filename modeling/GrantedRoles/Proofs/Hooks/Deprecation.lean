import GrantedRoles.Proofs.Hooks.Hierarchy
import GrantedRoles.Proofs.Resolution

/-!
# Which classes are warned about

A class is deprecated if it derives from `RoleHooks` and its instances run an override of the legacy
hook, be it its own or one that it inherits. Defining a class causes one warning if it is deprecated
and none if it is not (`Hierarchy.define_warnings`). So a class that derives from `RoleHooks` and
was defined without a warning contributes no legacy role, however the hierarchy grows
(`Hierarchy.Sound.legacyRoles_of_not_deprecated`).
-/

set_option autoImplicit false

namespace GrantedRoles

open Linearization

/-- The warning about a class of a name. -/
def deprecation (name : String) : String :=
  name ++ " overrides RoleHooks.legacy_group_roles, which is deprecated; "
    ++ "implement additional_roles instead"

namespace Hierarchy

variable {h next later : Hierarchy} {definition : ClassDefinition} {c b : ClassId}

/-- The class derives from `RoleHooks` and its instances run an override of the legacy hook. -/
def Deprecated (h : Hierarchy) (c : ClassId) : Prop :=
  rootId ∈ h.orderOf c ∧ ∃ d, h.Runs c d .overridden

/-- The warnings that a definition causes. -/
def warnings (h : Hierarchy) (definition : ClassDefinition) : List String :=
  match h.define definition with
  | .ok (next, c) => (next.warning? c).toList
  | .error _ => []

/-! ## The warning -/

theorem exists_runs_iff {member : HookMember} :
    (∃ d, h.Runs c d member) ↔ ∃ cls, h.legacyMember? c = some (cls, member) := by
  constructor
  · rintro ⟨d, hruns⟩
    obtain ⟨before, after, horder, hmember, hbefore⟩ := hruns
    obtain ⟨cls, hcls, -⟩ := Option.bind_eq_some_iff.1 hmember
    exact ⟨cls, legacyMember?_eq_some_iff.2 ⟨d, hcls, before, after, horder, hmember, hbefore⟩⟩
  · rintro ⟨cls, hfound⟩
    obtain ⟨d, -, hruns⟩ := legacyMember?_eq_some_iff.1 hfound
    exact ⟨d, hruns⟩

theorem derives_iff : h.derives c = true ↔ rootId ∈ h.orderOf c := List.contains_iff_mem

theorem deprecated_iff : h.Deprecated c ↔
    h.derives c = true ∧ ∃ cls, h.legacyMember? c = some (cls, .overridden) := by
  rw [Deprecated, derives_iff, exists_runs_iff]

/-- There is a warning about the deprecated classes and about no others. -/
theorem warning?_cases {cls : HookClass} (hcls : h[c]? = some cls) :
    (h.Deprecated c ∧ h.warning? c = some (deprecation cls.name)) ∨
      (¬ h.Deprecated c ∧ h.warning? c = none) := by
  rw [deprecated_iff, warning?, hcls]
  cases hmember : h.legacyMember? c with
  | none =>
    refine Or.inr ⟨?_, rfl⟩
    rintro ⟨-, cls', hfound⟩
    cases hfound
  | some found =>
    obtain ⟨owner, member⟩ := found
    cases member with
    | inert =>
      refine Or.inr ⟨?_, rfl⟩
      rintro ⟨-, cls', hfound⟩
      cases hfound
    | overridden =>
      cases hderives : h.derives c with
      | true => exact Or.inl ⟨⟨rfl, owner, rfl⟩, rfl⟩
      | false =>
        refine Or.inr ⟨?_, rfl⟩
        rintro ⟨hfalse, -⟩
        cases hfalse

/-- **One warning or none.** A definition causes one warning, with the name of its class, if the
class is deprecated, and none if it is not. -/
theorem define_warnings (hdefine : h.define definition = .ok (next, c)) :
    (next.Deprecated c ∧ h.warnings definition = [deprecation definition.name]) ∨
      (¬ next.Deprecated c ∧ h.warnings definition = []) := by
  obtain ⟨_, inherited, -, -, hcls, -⟩ := added_of_define hdefine
  have hwarnings : h.warnings definition = (next.warning? c).toList := by
    rw [warnings, hdefine]
  rw [hwarnings]
  rcases warning?_cases hcls with ⟨hdeprecated, hwarning⟩ | ⟨hfine, hwarning⟩
  · rw [hwarning]
    exact Or.inl ⟨hdeprecated, rfl⟩
  · rw [hwarning]
    exact Or.inr ⟨hfine, rfl⟩

/-- What classes make of the additional hook does not matter. -/
theorem warnings_plain (h : Hierarchy) (definition : ClassDefinition) :
    h.plain.warnings definition.plain = h.warnings definition := by
  unfold warnings
  rw [define_plain]
  cases h.define definition with
  | error failure => rfl
  | ok result =>
    obtain ⟨next, c⟩ := result
    simp only [Except.map, warning?, getElem?_plain, legacyMember?_plain, derives, orderOf_plain]
    cases next[c]? with
    | none => rfl
    | some cls =>
      cases next.legacyMember? c with
      | none => rfl
      | some found =>
        obtain ⟨owner, member⟩ := found
        cases member <;> rfl

/-! ## The order of a defined class -/

/-- A defined class heads its order and inherits what its bases merge to. -/
theorem orderOf_of_define (hdefine : h.define definition = .ok (next, c)) :
    ∃ bases inherited, h.findAll definition.bases = .ok bases ∧
      Merges (bases.map h.orderOf ++ [bases]) inherited ∧ next.orderOf c = c :: inherited := by
  obtain ⟨bases, inherited, hbases, hmerges, hcls, rfl⟩ := added_of_define hdefine
  exact ⟨bases, inherited, hbases, hmerges, orderOf_eq hcls⟩

/-- What a class says itself about the legacy hook is what its instances run. -/
theorem runs_of_legacy (hdefine : h.define definition = .ok (next, c)) {member : HookMember}
    (hlegacy : definition.legacy = some member) : next.Runs c c member := by
  obtain ⟨_, inherited, -, -, hcls, rfl⟩ := added_of_define hdefine
  refine ⟨[], inherited, orderOf_eq hcls, ?_, by simp⟩
  rw [ownLegacy?, hcls]
  exact hlegacy

/-- A class that restores the legacy hook of `RoleHooks` is not deprecated. -/
theorem not_deprecated_of_inert (hdefine : h.define definition = .ok (next, c))
    (hlegacy : definition.legacy = some .inert) : ¬ next.Deprecated c := by
  rintro ⟨-, d, hruns⟩
  have hmember := (runs_of_legacy hdefine hlegacy).unique hruns
  cases hmember

namespace Sound

theorem rootId_lt (hsound : h.Sound) : rootId < h.length :=
  (List.getElem?_eq_some_iff.1 hsound.root).1

/-- A class is in its own order. -/
theorem mem_orderOf_self (hsound : h.Sound) (hb : b < h.length) : b ∈ h.orderOf b := by
  obtain ⟨inherited, horder, -⟩ := hsound.order b _ (List.getElem?_eq_getElem hb)
  rw [orderOf_eq (List.getElem?_eq_getElem hb), horder]
  exact List.mem_cons_self

/-- A class derives from `RoleHooks` if one of its bases does. -/
theorem rootId_mem_orderOf_iff (hsound : h.Sound) (hdefine : h.define definition = .ok (next, c)) :
    rootId ∈ next.orderOf c ↔
      ∃ bases, h.findAll definition.bases = .ok bases ∧ ∃ b ∈ bases, rootId ∈ h.orderOf b := by
  obtain ⟨bases, inherited, hbases, hmerges, horder⟩ := orderOf_of_define hdefine
  obtain ⟨_, _, -, -, -, hlast⟩ := added_of_define hdefine
  have hne : rootId ≠ c := by
    rw [hlast]
    exact Nat.ne_of_lt hsound.rootId_lt
  rw [horder, List.mem_cons, or_iff_right hne, hmerges.mem_iff]
  constructor
  · rintro ⟨list, hlist, hroot⟩
    rcases List.mem_append.1 hlist with hlist | hlist
    · obtain ⟨b, hb, rfl⟩ := List.mem_map.1 hlist
      exact ⟨bases, hbases, b, hb, hroot⟩
    · rw [List.mem_singleton.1 hlist] at hroot
      exact ⟨bases, hbases, rootId, hroot, hsound.mem_orderOf_self hsound.rootId_lt⟩
  · rintro ⟨bases', hbases', b, hb, hroot⟩
    rw [hbases] at hbases'
    cases hbases'
    exact ⟨h.orderOf b, List.mem_append_left _ (List.mem_map_of_mem hb), hroot⟩

/-- A class that says nothing about the legacy hook runs that of the first inherited class that
does. -/
theorem legacyMember?_of_inherits (hsound : h.Sound) (hdefine : h.define definition = .ok (next, c))
    (hlegacy : definition.legacy = none) {inherited : List ClassId}
    (horder : next.orderOf c = c :: inherited) :
    next.legacyMember? c = (h.classes inherited).findSome? fun cls => cls.legacy.map (cls, ·) := by
  obtain ⟨_, inherited', -, -, hcls, hlast⟩ := added_of_define hdefine
  have hown : (h.added definition inherited').legacy = none := hlegacy
  -- What is inherited was there before the definition.
  have hclasses : next.classes inherited = h.classes inherited := by
    obtain ⟨inherited'', horder', hbefore⟩ := (hsound.define hdefine).order c _ hcls
    rw [orderOf_eq hcls, horder'] at horder
    obtain ⟨-, rfl⟩ := List.cons.inj horder
    apply List.filterMap_congr
    intro d hd
    exact getElem?_of_longer (longer_of_define hdefine) (hlast ▸ hbefore d hd)
  unfold legacyMember?
  rw [horder, classes, List.filterMap_cons, hcls]
  simp only [List.findSome?_cons, hown, Option.map_none]
  exact congrArg _ hclasses

/-- A class with one base that leaves the legacy hook to it is deprecated if the base is. -/
theorem deprecated_iff_of_single (hsound : h.Sound)
    (hdefine : h.define definition = .ok (next, c)) (hlegacy : definition.legacy = none)
    (hbases : h.findAll definition.bases = .ok [b]) : next.Deprecated c ↔ h.Deprecated b := by
  have hroot := hsound.rootId_mem_orderOf_iff hdefine
  obtain ⟨bases, inherited, hfound, hmerges, horder⟩ := orderOf_of_define hdefine
  rw [hbases] at hfound hroot
  cases hfound
  have hb : b < h.length := lt_of_mem_findAll hbases b List.mem_cons_self
  -- The order of the base has all classes there are to merge.
  have hinherited : inherited = h.orderOf b := by
    apply hmerges.eq_of_subset (by simp)
    intro other hother d hd
    rcases List.mem_append.1 hother with hother | hother
    · rw [List.map_singleton, List.mem_singleton] at hother
      exact hother ▸ hd
    · rw [List.mem_singleton.1 hother, List.mem_singleton] at hd
      rw [hd]
      exact hsound.mem_orderOf_self hb
  have hmember : next.legacyMember? c = h.legacyMember? b := by
    rw [hsound.legacyMember?_of_inherits hdefine hlegacy horder, hinherited]
    rfl
  rw [deprecated_iff, deprecated_iff, derives_iff, derives_iff, hmember, hroot]
  simp

/-- A class that derives from `RoleHooks` and is not deprecated contributes no legacy role, whatever
is defined after it. -/
theorem legacyRoles_of_not_deprecated (hsound : h.Sound) (hroot : rootId ∈ h.orderOf c)
    (hfine : ¬ h.Deprecated c) (hlonger : h <+: later) :
    later.legacyRoles c = .ok (some TextSet.empty) := by
  have hc : c < h.length := by
    cases hcls : h[c]? with
    | none =>
      rw [orderOf, hcls] at hroot
      cases hroot
    | some cls => exact (List.getElem?_eq_some_iff.1 hcls).1
  have hmember := hsound.legacyMember?_of_longer hlonger hc
  -- Some class has the legacy hook, `RoleHooks` if no other.
  cases hfound : h.legacyMember? c with
  | none =>
    unfold legacyMember? at hfound
    rw [findSome?_classes, List.findSome?_eq_none_iff] at hfound
    have hnone := hfound rootId hroot
    rw [hsound.root] at hnone
    cases hnone
  | some found =>
    obtain ⟨owner, member⟩ := found
    rw [legacyRoles, hmember, hfound]
    cases member with
    | inert => rfl
    | overridden => exact absurd (deprecated_iff.2 ⟨derives_iff.2 hroot, owner, hfound⟩) hfine

end Sound

end Hierarchy

/-! ## Resolutions -/

namespace Resolver

/-- A legacy hook that never contributes anything might as well be left out: a resolution has the
same outcome. -/
theorem resolve_without_legacy (gateway : Gateway) (config : GroupSearch) {hooks : Hooks}
    {hook : String → Assoc AttributeValues → Contribution} (hlegacy : hooks.legacy = some hook)
    (hsilent : ∀ dn attributes, hook dn attributes = .ok (some TextSet.empty)) (user : User)
    (ambient : Ambient) :
    ((resolve ⟨gateway, config, hooks⟩ user).run ambient).1
      = ((resolve ⟨gateway, config, { hooks with legacy := none }⟩ user).run ambient).1 := by
  have hanswer : (hooks.legacyConsultation user).answer
      = (Hooks.legacyConsultation { hooks with legacy := none } user).answer := by
    unfold Hooks.legacyConsultation
    rw [hlegacy]
    simp only [hsilent]
    rfl
  exact resolve_outcome_congr gateway config rfl rfl hanswer rfl ambient

end Resolver

/-! ## Deprecated classes -/

namespace Hierarchy

/-- **Deprecated classes are warned about, and no others.** Take any sequence of definitions and one
more that defines a class.

* The class heads its order and inherits what the orders of its bases and the bases merge to; it
  derives from `RoleHooks` if one of its bases does.
* There is one warning, with the name of the class, if it derives from `RoleHooks` and the first
  class in its order that has the legacy hook overrides it; else there is none.
* What the class says itself about the legacy hook is what its instances run, so there is no warning
  if it restores the hook; if it says nothing and has one base, it is deprecated like that.
* What any of the classes makes of the additional hook does not matter.
* If it derives from `RoleHooks` and there was no warning, resolutions with its instances end as
  without a legacy hook, whatever is defined in the meantime. -/
theorem deprecated_classes_warned (definitions : List ClassDefinition)
    (definition : ClassDefinition) {next : Hierarchy} {c : ClassId}
    (hdefine : (initial.extendAll definitions).define definition = .ok (next, c)) :
    let h := initial.extendAll definitions
    (∃ bases inherited, h.findAll definition.bases = .ok bases ∧
      Merges (bases.map h.orderOf ++ [bases]) inherited ∧ next.orderOf c = c :: inherited ∧
      (rootId ∈ next.orderOf c ↔ ∃ b ∈ bases, rootId ∈ h.orderOf b)) ∧
    ((next.Deprecated c ∧ h.warnings definition = [deprecation definition.name]) ∨
      (¬ next.Deprecated c ∧ h.warnings definition = [])) ∧
    (∀ member, definition.legacy = some member → next.Runs c c member) ∧
    (definition.legacy = some .inert → ¬ next.Deprecated c) ∧
    (∀ b, definition.legacy = none → h.findAll definition.bases = .ok [b] →
      (next.Deprecated c ↔ h.Deprecated b)) ∧
    (∀ others other, others.map ClassDefinition.plain = definitions.map ClassDefinition.plain →
      other.plain = definition.plain →
      (initial.extendAll others).warnings other = h.warnings definition) ∧
    (rootId ∈ next.orderOf c → h.warnings definition = [] →
      ∀ (more : List ClassDefinition) (gateway : Gateway) (config : GroupSearch) (user : User)
        (ambient : Ambient),
        let hooks := (next.extendAll more).hooks c
        ((Resolver.resolve ⟨gateway, config, hooks⟩ user).run ambient).1
          = ((Resolver.resolve ⟨gateway, config, { hooks with legacy := none }⟩ user).run
            ambient).1) := by
  intro h
  have hsound : h.Sound := (sound_initial.extendAll definitions).1
  have hwarnings := define_warnings hdefine
  refine ⟨?_, hwarnings, fun _ => runs_of_legacy hdefine, not_deprecated_of_inert hdefine,
    fun _ => hsound.deprecated_iff_of_single hdefine, ?_, ?_⟩
  · obtain ⟨bases, inherited, hbases, hmerges, horder⟩ := orderOf_of_define hdefine
    have hroot := hsound.rootId_mem_orderOf_iff hdefine
    rw [hbases] at hroot
    refine ⟨bases, inherited, hbases, hmerges, horder, hroot.trans ?_⟩
    simp
  · intro others other hothers hother
    rw [← warnings_plain, ← extendAll_plain, hothers, hother, extendAll_plain, warnings_plain]
  · intro hroot hnone more gateway config user ambient hooks
    have hfine : ¬ next.Deprecated c := by
      rcases hwarnings with ⟨-, hone⟩ | ⟨hfine, -⟩
      · rw [hone] at hnone
        cases hnone
      · exact hfine
    have hnext := hsound.define hdefine
    apply Resolver.resolve_without_legacy gateway config rfl
    intro _ _
    exact hnext.legacyRoles_of_not_deprecated hroot hfine (hnext.extendAll more).2

/-- One class overrides the legacy hook and another restores it. A class with both as bases takes
the first of them: with the one that restores the hook first there is no warning and no legacy role,
and with the other first there is a warning. -/
theorem deprecated_classes_warned_diamond :
    let h := initial.extendAll
      [⟨"Old", ["RoleHooks"], some .overridden, none⟩, ⟨"Clean", ["RoleHooks"], some .inert, none⟩]
    let careful : ClassDefinition := ⟨"Careful", ["Clean", "Old"], none, some .overridden⟩
    (∃ next c, h.define careful = .ok (next, c) ∧ ¬ next.Deprecated c ∧
      ∀ (gateway : Gateway) (config : GroupSearch) (user : User) (ambient : Ambient),
        ((Resolver.resolve ⟨gateway, config, next.hooks c⟩ user).run ambient).1
          = ((Resolver.resolve ⟨gateway, config, { next.hooks c with legacy := none }⟩ user).run
            ambient).1) ∧
      h.warnings careful = [] ∧
      h.warnings ⟨"Careless", ["Old", "Clean"], none, none⟩ = [deprecation "Careless"] := by
  intro h careful
  have hnone : h.warnings careful = [] := by decide +kernel
  have hderives : (h.define careful).toOption.any
      (fun result => result.1.derives result.2) = true := by decide +kernel
  refine ⟨?_, hnone, by decide +kernel⟩
  cases hdefine : h.define careful with
  | error failure =>
    rw [hdefine] at hderives
    cases hderives
  | ok result =>
    obtain ⟨next, c⟩ := result
    rw [hdefine] at hderives
    obtain ⟨-, hwarnings, -, -, -, -, hsilent⟩ := deprecated_classes_warned _ careful hdefine
    refine ⟨next, c, rfl, ?_, hsilent (derives_iff.1 hderives) hnone []⟩
    rcases hwarnings with ⟨-, hone⟩ | ⟨hfine, -⟩
    · rw [hnone] at hone
      cases hone
    · exact hfine

end Hierarchy

end GrantedRoles
