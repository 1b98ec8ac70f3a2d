import GrantedRoles.Proofs.Resolution
import Mathlib.Data.List.Nodup
import Mathlib.Data.List.Perm.Subperm
import Mathlib.Tactic.Push

/-!
# Users that compare equal

Users compare equal if they have the same names and the same attributes, in whatever order
(`same_iff`). They then have one hash, and every attribute that is looked up by its exact name has
the same values in both. A lookup without regard to case takes the first attribute whose name fits,
and this is where the order shows: the lookup agrees for all users that compare equal exactly if all
attributes whose names fit have the same values (`User.Unambiguous`). Hooks that look up only such
names contribute the same for both, and so both are granted the same roles
(`same_users_interchangeable`).
-/

set_option autoImplicit false

namespace GrantedRoles

open Text

/-! ## Maps in another order -/

namespace Assoc

variable {α : Type} {m m' : Assoc α}

theorem get?_eq_some_iff (hkeys : m.keys.Nodup) {key : String} {value : α} :
    m.get? key = some value ↔ (key, value) ∈ m := by
  induction m with
  | nil => simp
  | cons entry rest ih =>
    obtain ⟨k, v⟩ := entry
    obtain ⟨hk, hrest⟩ := List.nodup_cons.1 hkeys
    rw [get?_cons, List.mem_cons, Prod.mk.injEq]
    by_cases hkey : key = k
    · subst hkey
      -- The key is not among the others.
      have hother : (key, value) ∉ rest := fun hmem => hk (List.mem_map.2 ⟨_, hmem, rfl⟩)
      simp [hother, eq_comm]
    · rw [if_neg hkey, ih hrest]
      simp [hkey]

/-- The order of a map does not show in its values. -/
theorem get?_perm (hperm : m.Perm m') (hkeys : m.keys.Nodup) (key : String) :
    m.get? key = m'.get? key := by
  have hkeys' : m'.keys.Nodup := (hperm.map Prod.fst).nodup_iff.1 hkeys
  refine Option.ext fun value => ?_
  rw [get?_eq_some_iff hkeys, get?_eq_some_iff hkeys', hperm.mem_iff]

/-- Maps of one length, one of which has the values of the other, differ in their order at most. -/
theorem perm_of_get? (hkeys : m.keys.Nodup) (hlength : m.length = m'.length)
    (h : ∀ entry ∈ m, m'.get? entry.1 = some entry.2) : m.Perm m' := by
  have hsubset : m ⊆ m' := by
    intro entry hentry
    obtain ⟨before, after, hsplit, -⟩ := List.lookup_eq_some_iff.1 (h entry hentry)
    rw [hsplit]
    simp
  have hsubperm := List.subperm_of_subset (List.Nodup.of_map Prod.fst hkeys) hsubset
  exact hsubperm.perm_of_length_le (Nat.le_of_eq hlength.symm)

end Assoc

namespace User

variable {u v : User} {name : String}

theorem same_iff (hkeys : u.attributes.keys.Nodup) :
    u.same v = true ↔
      u.dn = v.dn ∧ u.username = v.username ∧ u.attributes.Perm v.attributes := by
  have hattributes : sameAttributes u.attributes v.attributes = true ↔
      u.attributes.Perm v.attributes := by
    simp only [sameAttributes, Bool.and_eq_true, List.all_eq_true, beq_iff_eq]
    constructor
    · rintro ⟨hlength, h⟩
      exact Assoc.perm_of_get? hkeys hlength h
    · intro hperm
      refine ⟨hperm.length_eq, fun entry hentry => ?_⟩
      rw [← Assoc.get?_perm hperm hkeys, Assoc.get?_eq_some_iff hkeys]
      exact hentry
  simp only [same, Bool.and_eq_true, beq_iff_eq, hattributes, and_assoc]

/-! ## Lookup without regard to case -/

/-- Whichever attribute fits a name, it has the same values. -/
def Unambiguous (user : User) (name : String) : Prop :=
  ∀ first ∈ user.attributes, ∀ second ∈ user.attributes,
    sameLower first.1 name = true → sameLower second.1 name = true →
      first.2.items = second.2.items

theorem attributeValues_cons {entry : String × AttributeValues} (user : User)
    (hfits : sameLower entry.1 name = true) :
    attributeValues { user with attributes := entry :: user.attributes } name
      = entry.2.items := by
  simp [attributeValues, hfits]

/-- The values of a name are those of any attribute that fits it. -/
theorem Unambiguous.attributeValues_eq (h : u.Unambiguous name)
    {entry : String × AttributeValues} (hentry : entry ∈ u.attributes)
    (hfits : sameLower entry.1 name = true) : u.attributeValues name = entry.2.items := by
  unfold attributeValues
  cases hfound : u.attributes.find? fun entry => sameLower entry.1 name with
  | none => exact absurd hfits (List.find?_eq_none.1 hfound entry hentry)
  | some found =>
    have hfoundFits : sameLower found.1 name = true := by simpa using List.find?_some hfound
    exact h found (List.mem_of_find?_eq_some hfound) entry hentry hfoundFits hfits

theorem Unambiguous.attributeValues_perm (h : u.Unambiguous name)
    (hperm : u.attributes.Perm v.attributes) : u.attributeValues name = v.attributeValues name := by
  cases hfound : v.attributes.find? fun entry => sameLower entry.1 name with
  | none =>
    -- Nothing fits in either order.
    have hnone : (u.attributes.find? fun entry => sameLower entry.1 name) = none := by
      rw [List.find?_eq_none] at hfound ⊢
      intro entry hentry
      exact hfound entry (hperm.mem_iff.1 hentry)
    rw [attributeValues, attributeValues, hnone, hfound]
  | some found =>
    have hmem := hperm.mem_iff.2 (List.mem_of_find?_eq_some hfound)
    have hfits : sameLower found.1 name = true := by simpa using List.find?_some hfound
    rw [h.attributeValues_eq hmem hfits, attributeValues, hfound]

/-- Where attributes that fit a name differ, another order puts another one first. -/
theorem exists_perm_of_ambiguous (h : ¬ u.Unambiguous name) :
    ∃ attributes, u.attributes.Perm attributes ∧
      attributeValues { u with attributes } name ≠ u.attributeValues name := by
  unfold Unambiguous at h
  push Not at h
  obtain ⟨first, hfirst, second, hsecond, hfits, hfits', hdiffer⟩ := h
  -- One of the two has other values than those that are found now.
  have hother : ∃ entry ∈ u.attributes, sameLower entry.1 name = true ∧
      entry.2.items ≠ u.attributeValues name := by
    by_cases heq : first.2.items = u.attributeValues name
    · exact ⟨second, hsecond, hfits', fun heq' => hdiffer (heq.trans heq'.symm)⟩
    · exact ⟨first, hfirst, hfits, heq⟩
  obtain ⟨entry, hentry, hentryFits, hne⟩ := hother
  obtain ⟨before, after, hsplit⟩ := List.append_of_mem hentry
  refine ⟨entry :: (before ++ after), hsplit ▸ List.perm_middle, ?_⟩
  rw [attributeValues_cons { u with attributes := before ++ after } hentryFits]
  exact hne

end User

/-! ## Hooks that look attributes up -/

/-- Of the attributes, hooks see what they find by exact names, and the additional hook what it
finds under some names without regard to case. -/
structure Hooks.LooksUp (hooks : Hooks) (names : String → Prop) : Prop where
  legacy : ∀ hook, hooks.legacy = some hook → ∀ dn a b,
    (∀ name, Assoc.get? a name = Assoc.get? b name) → hook dn a = hook dn b
  additional : ∀ hook, hooks.additional = some hook → ∀ u v : User, u.dn = v.dn →
    u.username = v.username → (∀ name, u.attributes.get? name = v.attributes.get? name) →
    (∀ name, names name → u.attributeValues name = v.attributeValues name) → hook u = hook v

namespace Hooks.LooksUp

variable {hooks : Hooks} {names : String → Prop} {u v : User}

theorem legacy_answer (h : hooks.LooksUp names) (hdn : u.dn = v.dn)
    (hget : ∀ name, u.attributes.get? name = v.attributes.get? name) :
    (hooks.legacyConsultation u).answer = (hooks.legacyConsultation v).answer := by
  unfold Hooks.legacyConsultation
  cases hlegacy : hooks.legacy with
  | none => rfl
  | some hook =>
    change (hook u.dn u.attributes).map _ = (hook v.dn v.attributes).map _
    rw [hdn, h.legacy hook hlegacy v.dn _ _ hget]

theorem additional_answer (h : hooks.LooksUp names) (hdn : u.dn = v.dn)
    (husername : u.username = v.username)
    (hget : ∀ name, u.attributes.get? name = v.attributes.get? name)
    (hvalues : ∀ name, names name → u.attributeValues name = v.attributeValues name) :
    (hooks.additionalConsultation u).answer = (hooks.additionalConsultation v).answer := by
  unfold Hooks.additionalConsultation
  cases hadditional : hooks.additional with
  | none => rfl
  | some hook =>
    change (hook u).map _ = (hook v).map _
    rw [h.additional hook hadditional u v hdn husername hget hvalues]

end Hooks.LooksUp

/-- A script looks up this name without regard to case. -/
def HookScript.Seeks (script : HookScript) (name : String) : Prop :=
  ∃ start, script = .fromAttribute name start

/-- Scripted hooks look attributes up. -/
theorem Hooks.looksUp_ofScripts (legacy additional : Option HookScript) :
    (Hooks.ofScripts legacy additional).LooksUp fun name => ∃ script ∈ additional,
      script.Seeks name where
  legacy := by
    intro hook hhook dn a b hget
    obtain ⟨script, -, rfl⟩ := Option.map_eq_some_iff.1 hhook
    cases script with
    | fromAttribute name start => simp only [HookScript.legacy, hget]
    | _ => rfl
  additional := by
    intro hook hhook u v _ _ _ hvalues
    obtain ⟨script, hscript, rfl⟩ := Option.map_eq_some_iff.1 hhook
    cases script with
    | fromAttribute name start =>
      have hname := hvalues name ⟨_, hscript, start, rfl⟩
      simp only [HookScript.additional, hname]
    | _ => rfl

namespace User

/-- **Users that compare equal are interchangeable up to ambiguous names.** They have one hash and
the same values under every exact name. Without regard to case they have the same values under a
name that is unambiguous, and under any other name some user that compares equal has other values.
Hooks that look up only unambiguous names without regard to case contribute the same for both, so
every resolution has the same outcome for both, over any gateway and with any configuration. -/
theorem same_users_interchangeable (u v : User) (hkeys : u.attributes.keys.Nodup)
    (h : u.same v = true) :
    u.hashKey = v.hashKey ∧
      (∀ name, u.attributes.get? name = v.attributes.get? name) ∧
      (∀ name, u.Unambiguous name → u.attributeValues name = v.attributeValues name) ∧
      (∀ name, ¬ u.Unambiguous name → ∃ w : User, w.attributes.keys.Nodup ∧ u.same w = true ∧
        w.attributeValues name ≠ u.attributeValues name) ∧
      ∀ (hooks : Hooks) (names : String → Prop), hooks.LooksUp names →
        (∀ name, names name → u.Unambiguous name) →
        ∀ (gateway : Gateway) (config : GroupSearch) (ambient : Ambient),
          ((Resolver.resolve ⟨gateway, config, hooks⟩ u).run ambient).1
            = ((Resolver.resolve ⟨gateway, config, hooks⟩ v).run ambient).1 := by
  obtain ⟨hdn, husername, hperm⟩ := (same_iff hkeys).1 h
  have hget := Assoc.get?_perm hperm hkeys
  refine ⟨Prod.ext hdn husername, hget, fun name hname => hname.attributeValues_perm hperm,
    ?_, ?_⟩
  · intro name hname
    obtain ⟨attributes, hother, hne⟩ := exists_perm_of_ambiguous hname
    exact ⟨{ u with attributes }, (hother.map Prod.fst).nodup_iff.1 hkeys,
      (same_iff hkeys).2 ⟨rfl, rfl, hother⟩, hne⟩
  · intro hooks names hlooks hnames gateway config ambient
    have hvalues : ∀ name, names name → u.attributeValues name = v.attributeValues name :=
      fun name hname => (hnames name hname).attributeValues_perm hperm
    exact Resolver.resolve_outcome_congr gateway config hdn husername
      (hlooks.legacy_answer hdn hget)
      (hlooks.additional_answer hdn husername hget hvalues) ambient

/-- Two users with their attributes in another order: two names that differ in case alone have the
same values, so a hook that looks them up cannot tell the users apart. -/
theorem same_users_interchangeable_reordered :
    let u : User := ⟨"uid=ben,dc=x", "ben",
      [("Team", .listed ["a"]), ("mail", .single "b"), ("TEAM", .single "a")]⟩
    let v : User := ⟨"uid=ben,dc=x", "ben",
      [("TEAM", .single "a"), ("Team", .listed ["a"]), ("mail", .single "b")]⟩
    let hooks := Hooks.ofScripts (some (.fromAttribute "mail" "M_"))
      (some (.fromAttribute "team" "R_"))
    u.attributes.keys.Nodup ∧ u.same v = true ∧ u ≠ v ∧ u.Unambiguous "team" ∧
      u.attributeValues "team" = v.attributeValues "team" ∧
      ∀ (gateway : Gateway) (config : GroupSearch) (ambient : Ambient),
        ((Resolver.resolve ⟨gateway, config, hooks⟩ u).run ambient).1
          = ((Resolver.resolve ⟨gateway, config, hooks⟩ v).run ambient).1 := by
  intro u v hooks
  have hkeys : u.attributes.keys.Nodup := by decide
  have hsame : u.same v = true := by decide
  have hteam : u.Unambiguous "team" := by
    have hitems : ∀ entry ∈ u.attributes, sameLower entry.1 "team" = true →
        entry.2.items = ["a"] := by
      decide +kernel
    intro first hfirst second hsecond hfits hfits'
    rw [hitems first hfirst hfits, hitems second hsecond hfits']
  obtain ⟨-, -, hvalues, -, hroles⟩ := same_users_interchangeable u v hkeys hsame
  refine ⟨hkeys, hsame, by simp [u, v], hteam, hvalues "team" hteam, ?_⟩
  refine hroles hooks _ (Hooks.looksUp_ofScripts _ _) ?_
  rintro name ⟨script, hscript, start, rfl⟩
  cases hscript
  exact hteam

/-- Two users compare equal and have the values of two names that differ in case in another order:
the lookup finds other values, and other roles are granted. -/
theorem same_users_differ_in_case :
    let u : User := ⟨"uid=ben,dc=x", "ben", [("A", .listed ["1"]), ("a", .listed ["2"])]⟩
    let v : User := ⟨"uid=ben,dc=x", "ben", [("a", .listed ["2"]), ("A", .listed ["1"])]⟩
    let memory : MemoryGateway := {}
    let resolver : Resolver := ⟨memory.toGateway, {},
      Hooks.ofScripts none (some (.fromAttribute "a" "R_"))⟩
    u.same v = true ∧ u.attributeValues "a" = ["1"] ∧ v.attributeValues "a" = ["2"] ∧
      ((resolver.resolve u).run {}).1.toOption.map (·.texts.toList) = some ["R_1"] ∧
      ((resolver.resolve v).run {}).1.toOption.map (·.texts.toList) = some ["R_2"] := by
  decide +kernel

end User

end GrantedRoles
