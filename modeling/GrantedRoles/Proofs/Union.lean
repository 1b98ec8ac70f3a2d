import GrantedRoles.Proofs.Resolution

/-!
# The union of roles

What a resolution grants is one union. The names found in the directory become roles, each with the
prefix once and in upper case if that is asked for; the roles of the hooks and the default role join
them as they are (`resolve_unites`). The union does not depend on the order in which names and roles
are listed, nor on how often they are, and two names fall together only if their cases do
(`GroupTexts.role_eq_role_iff`).
-/

set_option autoImplicit false

namespace GrantedRoles

open Log Text

namespace GroupTexts

/-- A name as it stands in its role. -/
def cased (texts : GroupTexts) (raw : String) : String :=
  if texts.upperCase then upper raw else raw

theorem role_eq (texts : GroupTexts) (raw : String) :
    texts.role raw = texts.rolePrefix ++ texts.cased raw := rfl

/-- The prefix keeps names apart that are apart without it. -/
theorem role_eq_role_iff {texts : GroupTexts} {v w : String} :
    texts.role v = texts.role w ↔ texts.cased v = texts.cased w := by
  rw [role_eq, role_eq]
  constructor
  · intro h
    have hlists := congrArg String.toList h
    rw [String.toList_append, String.toList_append] at hlists
    exact String.toList_inj.1 (List.append_cancel_left hlists)
  · intro h
    rw [h]

theorem cased_append (texts : GroupTexts) (v w : String) :
    texts.cased (v ++ w) = texts.cased v ++ texts.cased w := by
  unfold cased
  split
  · exact upper_append v w
  · rfl

/-- The union of what the directory lists, what the hooks list and the default role. -/
def union (texts : GroupTexts) (names legacy additional : List String) : TextSet :=
  TextSet.ofList ((if texts.base.isSome then names.map texts.role else [])
    ++ legacy ++ additional ++ texts.defaultRole.toList)

theorem mem_union {texts : GroupTexts} {names legacy additional : List String} {r : String} :
    r ∈ texts.union names legacy additional ↔
      (texts.base ≠ none ∧ ∃ v ∈ names, texts.role v = r) ∨ r ∈ legacy ∨ r ∈ additional ∨
        texts.defaultRole = some r := by
  rw [union, TextSet.mem_ofList]
  cases texts.base <;> simp

end GroupTexts

/-- A list names the members of a set, in any order and any number of times. -/
def TextSet.Lists (set : TextSet) (texts : List String) : Prop := ∀ s, s ∈ texts ↔ s ∈ set

theorem TextSet.lists_toList (set : TextSet) : set.Lists set.toList := fun _ => Iff.rfl

/-- The union is the same for every listing of the same sets. -/
theorem GroupTexts.union_eq_union (texts : GroupTexts) {found legacy additional : TextSet}
    {names names' legacyNames legacyNames' additionalNames additionalNames' : List String}
    (hnames : found.Lists names) (hnames' : found.Lists names')
    (hlegacy : legacy.Lists legacyNames) (hlegacy' : legacy.Lists legacyNames')
    (hadditional : additional.Lists additionalNames)
    (hadditional' : additional.Lists additionalNames') :
    texts.union names legacyNames additionalNames
      = texts.union names' legacyNames' additionalNames' := by
  apply TextSet.ext
  intro r
  rw [mem_union, mem_union, hlegacy r, hlegacy' r, hadditional r, hadditional' r]
  simp only [hnames _, hnames' _]

/-! ## Collaborators that answer -/

/-- In the scene the gateway answers the query with a set, whatever it calls and logs on the way. -/
def Gateway.Finds (gateway : Gateway) (scene : Scene) (query : Query) (found : TextSet) : Prop :=
  ∃ calls lines, Course scene (gateway.search query) (.ok found) calls lines

/-- The hooks answer without failing, each with roles or with nothing. A hook that is not overridden
answers with nothing. -/
structure Hooks.Answer (hooks : Hooks) (user : User) (legacy additional : Option TextSet) :
    Prop where
  legacy : hooks.legacy.elim (.ok none) (fun hook => hook user.dn user.attributes) = .ok legacy
  additional : hooks.additional.elim (.ok none) (fun hook => hook user) = .ok additional

/-- A gateway in memory that does not fail finds its values. -/
theorem MemoryGateway.finds {memory : MemoryGateway} (h : memory.failure = none) (scene : Scene)
    (query : Query) : memory.toGateway.Finds scene query (TextSet.ofList memory.values) := by
  rw [MemoryGateway.toGateway_eq, h]
  exact ⟨_, Gateway.consults_answering memory.rootDn _ query⟩

namespace Hooks.Answer

variable {hooks : Hooks} {user : User} {legacy additional : Option TextSet}

theorem legacyConsultation (h : hooks.Answer user legacy additional) :
    (hooks.legacyConsultation user).answer = .ok (legacy.getD .empty) := by
  have hanswer : (hooks.legacyConsultation user).answer
      = (hooks.legacy.elim (.ok none) fun hook => hook user.dn user.attributes).map
          (·.getD .empty) := by
    unfold Hooks.legacyConsultation
    cases hooks.legacy <;> rfl
  rw [hanswer, h.legacy]
  rfl

theorem additionalConsultation (h : hooks.Answer user legacy additional) :
    (hooks.additionalConsultation user).answer = .ok (additional.getD .empty) := by
  have hanswer : (hooks.additionalConsultation user).answer
      = (hooks.additional.elim (.ok none) fun hook => hook user).map (·.getD .empty) := by
    unfold Hooks.additionalConsultation
    cases hooks.additional <;> rfl
  rw [hanswer, h.additional]
  rfl

end Hooks.Answer

/-! ## The union that is granted -/

/-- What a resolution gathers is the union of the listings that the sets have themselves. -/
theorem GroupTexts.withDefault_eq_union (texts : GroupTexts) (found legacy additional : TextSet) :
    texts.withDefault
        (((if texts.base.isSome then texts.roles found else .empty).union legacy).union additional)
      = texts.union found.toList legacy.toList additional.toList := by
  apply TextSet.ext
  intro r
  rw [mem_withDefault, TextSet.mem_union, TextSet.mem_union, mem_union, or_assoc, or_assoc]
  have hgroups : r ∈ (if texts.base.isSome then texts.roles found else TextSet.empty) ↔
      texts.base ≠ none ∧ ∃ v ∈ found.toList, texts.role v = r := by
    cases texts.base with
    | none => simp
    | some base =>
      rw [Option.isSome_some, if_pos rfl, mem_roles]
      simp only [ne_eq, reduceCtorEq, not_false_eq_true, true_and]
      exact Iff.rfl
  rw [hgroups]
  exact Iff.rfl

section Answered

variable {texts : GroupTexts} {gateway : Gateway} {hooks : Hooks} {user : User} {found : TextSet}
  {legacy additional : Option TextSet} {scene : Scene}

/-- The course of a resolution whose collaborators answer. -/
theorem resolve_answered
    (hfound : ∀ base, texts.base = some base →
      gateway.Finds (scene.withUser user.dn user.username) (texts.query base user) found)
    (hhooks : hooks.Answer user legacy additional)
    (htakes : (scene.withUser user.dn user.username).Takes .resolver Resolver.loggerName .debug) :
    ∃ calls lines, Course scene (Resolver.resolve ⟨gateway, texts.config, hooks⟩ user)
      (.ok { texts :=
        texts.union found.toList (legacy.getD .empty).toList (additional.getD .empty).toList })
      calls lines := by
  -- What the gateway calls is its own affair; without a base it is not asked.
  obtain ⟨calls, hsearch⟩ : ∃ calls : List Call, ∀ base, texts.base = some base →
      gateway.Consults (scene.withUser user.dn user.username) (texts.query base user)
        ⟨calls, .ok found⟩ := by
    cases hbase : texts.base with
    | none => exact ⟨[], by simp⟩
    | some base =>
      obtain ⟨calls, lines, hcourse⟩ := hfound base hbase
      refine ⟨calls, ?_⟩
      rintro other ⟨⟩
      exact ⟨lines, hcourse⟩
  have hconfig : (Resolver.mk gateway texts.config hooks).config = texts.config := rfl
  obtain ⟨lines, hcourse⟩ :=
    Resolver.resolve_course (fun _ => ⟨calls, .ok found⟩) hconfig htakes hsearch
  have hgroups : (texts.consultation (fun _ => ⟨calls, .ok found⟩) user).answer
      = .ok (if texts.base.isSome then texts.roles found else .empty) := by
    unfold GroupTexts.consultation
    cases texts.base <;> rfl
  rw [Consultation.gather_eq_ok hgroups hhooks.legacyConsultation hhooks.additionalConsultation]
    at hcourse
  rw [← GroupTexts.withDefault_eq_union]
  exact ⟨_, lines, hcourse⟩

end Answered

/-- **What is granted is one union.** Over a gateway that finds names and hooks that answer, if the
resolver's logger takes calls with the user bound, the outcome is a set of texts. A text is in it
exactly if groups are searched and it is the prefix before a found name in its case, or a hook
answered with it, or it is the default role. Two names have one role exactly if they have one case;
the prefix comes before a name that starts with it as it does before any other; and the set is the
same union for every listing of what was found and answered. -/
theorem resolve_unites {texts : GroupTexts} {gateway : Gateway} {hooks : Hooks} {user : User}
    {found : TextSet} {legacy additional : Option TextSet} {ambient : Ambient}
    (hfound : ∀ base, texts.base = some base →
      gateway.Finds (ambient.scene.withUser user.dn user.username) (texts.query base user) found)
    (hhooks : hooks.Answer user legacy additional)
    (htakes : (ambient.scene.withUser user.dn user.username).Takes .resolver Resolver.loggerName
      .debug) :
    let resolver : Resolver := ⟨gateway, texts.config, hooks⟩
    ∃ (roles : TextSet) (after : Ambient),
      (resolver.resolve user).run ambient = (.ok { texts := roles }, after) ∧
      (∀ r, r ∈ roles ↔
        (texts.base ≠ none ∧ ∃ v ∈ found, texts.rolePrefix ++ texts.cased v = r) ∨
        (∃ l, legacy = some l ∧ r ∈ l) ∨ (∃ a, additional = some a ∧ r ∈ a) ∨
        texts.defaultRole = some r) ∧
      (∀ v w, texts.role v = texts.role w ↔ texts.cased v = texts.cased w) ∧
      (∀ v, texts.role (texts.rolePrefix ++ v)
        = texts.rolePrefix ++ (texts.cased texts.rolePrefix ++ texts.cased v)) ∧
      (∀ names legacyNames additionalNames, found.Lists names →
        (legacy.getD .empty).Lists legacyNames → (additional.getD .empty).Lists additionalNames →
        roles = texts.union names legacyNames additionalNames) := by
  intro resolver
  obtain ⟨calls, lines, hcourse⟩ := resolve_answered hfound hhooks htakes
  obtain ⟨after, hrun, -⟩ := hcourse.exists_run
  have hanswered : ∀ (answer : Option TextSet) (r : String),
      r ∈ (answer.getD .empty).toList ↔ ∃ roles, answer = some roles ∧ r ∈ roles := by
    rintro (_ | roles) r
    · simp [TextSet.empty]
    · simp only [Option.getD_some, Option.some.injEq, exists_eq_left']
      exact Iff.rfl
  refine ⟨_, after, hrun, ?_, fun v w => GroupTexts.role_eq_role_iff, ?_, ?_⟩
  · intro r
    rw [GroupTexts.mem_union, hanswered, hanswered]
    exact Iff.rfl
  · intro v
    rw [GroupTexts.role_eq, GroupTexts.cased_append]
  · intro names legacyNames additionalNames hnames hlegacy hadditional
    exact texts.union_eq_union (TextSet.lists_toList _) hnames (TextSet.lists_toList _) hlegacy
      (TextSet.lists_toList _) hadditional

/-- A legacy hook that answers with a role, and an additional hook that answers with nothing. -/
def Hooks.sample : Hooks :=
  { legacy := some fun _ _ => .ok (some (TextSet.ofList ["dev"]))
    additional := some fun _ => .ok none }

theorem resolve_unites_overlapping :
    let texts : GroupTexts := { base := some "", defaultRole := some "ROLE_USER" }
    let memory : MemoryGateway := { values := ["dev", "ROLE_X", "Dev"] }
    let user : User := ⟨"uid=ben,dc=x", "ben", []⟩
    let ambient : Ambient := { logging := .configuredAt "DEBUG" }
    Hooks.sample.Answer user (some (TextSet.ofList ["dev"])) none ∧
      (ambient.scene.withUser user.dn user.username).Takes .resolver Resolver.loggerName .debug ∧
      ∃ after, (Resolver.resolve ⟨memory.toGateway, texts.config, .sample⟩ user).run ambient
        = (.ok { texts := TextSet.ofList ["ROLE_DEV", "ROLE_ROLE_X", "ROLE_USER", "dev"] },
          after) := by
  intro texts memory user ambient
  have hhooks : Hooks.sample.Answer user (some (TextSet.ofList ["dev"])) none := ⟨rfl, rfl⟩
  have htakes : (ambient.scene.withUser user.dn user.username).Takes .resolver Resolver.loggerName
      .debug := by decide
  have hfinds := MemoryGateway.finds (show memory.failure = none from rfl)
  refine ⟨hhooks, htakes, ?_⟩
  obtain ⟨roles, after, hrun, -, -, -, hunion⟩ := resolve_unites
    (fun base _ => hfinds _ (texts.query base user)) hhooks htakes
  -- The names are listed with repetitions and out of order.
  have hroles := hunion ["ROLE_X", "Dev", "dev", "Dev"] ["dev"] []
    (fun s => by simp [memory, or_comm, or_left_comm]) (fun s => by simp) (fun s => by simp)
  have hvalue : texts.union ["ROLE_X", "Dev", "dev", "Dev"] ["dev"] []
      = TextSet.ofList ["ROLE_DEV", "ROLE_ROLE_X", "ROLE_USER", "dev"] := by decide
  rw [hroles, hvalue] at hrun
  exact ⟨after, hrun⟩

/-- The same collaborators answer, and nothing is granted, if the caller has bound the field that
stands for a record. -/
theorem resolve_unites_nothing_on_record :
    let texts : GroupTexts := { base := some "", defaultRole := some "ROLE_USER" }
    let memory : MemoryGateway := { values := ["dev", "ROLE_X", "Dev"] }
    let user : User := ⟨"uid=ben,dc=x", "ben", []⟩
    let ambient : Ambient :=
      { context := [(recordField, .int 1)], logging := .configuredAt "DEBUG" }
    memory.toGateway.Finds (ambient.scene.withUser user.dn user.username) (texts.query "" user)
        (TextSet.ofList ["dev", "ROLE_X", "Dev"]) ∧
      Hooks.sample.Answer user (some (TextSet.ofList ["dev"])) none ∧
      ∃ after, (Resolver.resolve ⟨memory.toGateway, texts.config, .sample⟩ user).run ambient
        = (.error .noSuchOperation, after) := by
  intro texts memory user ambient
  have hrefused : (ambient.scene.withUser user.dn user.username).reply Resolver.beginning
      = .error .noSuchOperation := rfl
  obtain ⟨lines, hcourse⟩ :=
    Resolver.resolve_refused ⟨memory.toGateway, texts.config, .sample⟩ user hrefused
  obtain ⟨after, hrun, -⟩ := hcourse.exists_run
  have hfinds := MemoryGateway.finds (show memory.failure = none from rfl)
  exact ⟨hfinds _ _, ⟨rfl, rfl⟩, after, hrun⟩

end GrantedRoles
