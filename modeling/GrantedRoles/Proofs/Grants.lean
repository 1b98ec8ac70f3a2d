import GrantedRoles.Proofs.Directory.Search
import GrantedRoles.Proofs.Resolution

/-!
# Which roles are granted

From the directory's answer to the granted set: a role is granted because an entry gives the role
attribute a value that the role is made of, because a hook contributes it, or because it is the
default role, and for no other reason. The connection sees one search, below the root, with the
rendered filter, and is released after it.
-/

set_option autoImplicit false

namespace GrantedRoles

open Log Text

namespace DirectoryGateway

/-- What a search comes to that finds these names below this base with this filter. -/
def searched (opening : Call) (base : Value) (filter : String) (scope : Scope) (found : TextSet)
    (query : Query) : Consultation :=
  { calls := [opening, .search base filter scope query.wanted, .unbind], answer := .ok found }

/-- The course of a resolution over a connection that does its work and over hooks that answer. -/
theorem resolve_course {scene : Scene} {texts : GroupTexts} {base : String}
    (hbase : texts.base = some base) (root : String) (opening : Call) {connection : Connection}
    (hworks : connection.Works) {hooks : Hooks} {user : User} {found legacy additional : TextSet}
    {filter : String}
    (hfound : collect connection.entries (.text texts.roleAttribute) = .ok found)
    (hlegacy : (hooks.legacyConsultation user).answer = .ok legacy)
    (hadditional : (hooks.additionalConsultation user).answer = .ok additional)
    (hfilter : SearchFilter.render (.text texts.filter) [.text user.dn, .text user.username]
      = .ok filter)
    (htakes : (scene.withUser user.dn user.username).Takes .resolver Resolver.loggerName .debug)
    (hwarns : connection.unbindFailure = none ∨
      (scene.withUser user.dn user.username).Takes .gateway loggerName .warning) :
    ∃ lines, Course scene
      (Resolver.resolve ⟨DirectoryGateway.withConnection ⟨.text root, opening⟩ connection,
        texts.config, hooks⟩ user)
      (.ok { texts := texts.withDefault (((texts.roles found).union legacy).union additional) })
      ([opening, .search (.text (below root base)) filter texts.scope (.text texts.roleAttribute),
          .unbind]
        ++ ((hooks.legacyConsultation user).calls ++ (hooks.additionalConsultation user).calls))
      lines := by
  let gateway : DirectoryGateway := ⟨.text root, opening⟩
  let search := searched opening (.text (below root base)) filter texts.scope found
  have hconfig : (Resolver.mk (gateway.withConnection connection) texts.config hooks).config
      = texts.config := rfl
  have hsearch : ∀ other, texts.base = some other →
      (gateway.withConnection connection).Consults (scene.withUser user.dn user.username)
        (texts.query other user) (search (texts.query other user)) := by
    intro other hother
    rw [hbase] at hother
    cases hother
    have hquery : (texts.query base user).base = .text base := rfl
    have hprepared := prepare_text root opening hquery
    have hrender : SearchFilter.render (texts.query base user).template
        (texts.query base user).params = .ok filter := hfilter
    rw [hrender] at hprepared
    exact search_course hworks hprepared rfl rfl hfound hwarns
  obtain ⟨lines, hcourse⟩ := Resolver.resolve_course search hconfig htakes hsearch
  have hgroups : texts.consultation search user
      = { calls := (search (texts.query base user)).calls, answer := .ok (texts.roles found) } := by
    simp only [GroupTexts.consultation, hbase]
    rfl
  have hanswered : ∀ one ∈ [texts.consultation search user,
      hooks.legacyConsultation user, hooks.additionalConsultation user],
      ∃ roles, one.answer = .ok roles := by
    simp [hgroups, hlegacy, hadditional]
  rw [Consultation.callsMade_of_answered hanswered, hgroups,
    Consultation.gather_eq_ok rfl hlegacy hadditional] at hcourse
  simp only [List.flatMap_cons, List.flatMap_nil, List.append_nil] at hcourse
  exact ⟨lines, hcourse⟩

end DirectoryGateway

/-- **Granted roles are sound and complete.** When groups are searched over a connection that does
its work, every value that found entries give the role attribute has a text, the filter renders, the
hooks answer and no line of the resolution is refused, the outcome is a set of texts. A text is in
it exactly if a found entry gives the role attribute a value that the text is the role of, or a hook
contributes the text, or it is the default role. The connection is opened once, asked once with the
base below the root, the rendered filter, the scope and the attribute, and released; the hooks are
called after that. -/
theorem resolve_grants {texts : GroupTexts} {base : String} (hbase : texts.base = some base)
    (rootDn : String) (opening : Call) {connection : Connection} (hworks : connection.Works)
    (hreadable : Readable connection.entries texts.roleAttribute)
    {hooks : Hooks} {user : User} {legacy additional : TextSet} {filter : String}
    (hlegacy : (hooks.legacyConsultation user).answer = .ok legacy)
    (hadditional : (hooks.additionalConsultation user).answer = .ok additional)
    (hfilter : SearchFilter.render (.text texts.filter) [.text user.dn, .text user.username]
      = .ok filter)
    {ambient : Ambient}
    (htakes : (ambient.scene.withUser user.dn user.username).Takes .resolver
      Resolver.loggerName .debug)
    (hwarns : connection.unbindFailure = none ∨
      (ambient.scene.withUser user.dn user.username).Takes .gateway
        DirectoryGateway.loggerName .warning) :
    let gateway : DirectoryGateway := ⟨.text rootDn, opening⟩
    let resolver : Resolver := ⟨gateway.withConnection connection, texts.config, hooks⟩
    ∃ (roles : TextSet) (after : Ambient),
      (resolver.resolve user).run ambient = (.ok { texts := roles }, after) ∧
      (∀ r, r ∈ roles ↔
        (∃ entry ∈ connection.entries, ∃ v, entry.Gives texts.roleAttribute v ∧
          (texts.rolePrefix ++ if texts.upperCase then upper (valueText v) else valueText v) = r) ∨
        r ∈ legacy ∨ r ∈ additional ∨ texts.defaultRole = some r) ∧
      after.calls = ambient.calls ++
        ([opening, .search (.text (DirectoryGateway.below rootDn base)) filter texts.scope
            (.text texts.roleAttribute), .unbind]
          ++ ((hooks.legacyConsultation user).calls
            ++ (hooks.additionalConsultation user).calls)) := by
  intro gateway resolver
  obtain ⟨found, hfound, hmem⟩ := exists_collect hreadable
  obtain ⟨lines, hcourse⟩ := DirectoryGateway.resolve_course hbase rootDn opening hworks hfound
    hlegacy hadditional hfilter htakes hwarns
  obtain ⟨after, hrun, -, hcalls⟩ := hcourse.exists_run
  refine ⟨_, after, hrun, ?_, hcalls⟩
  intro r
  -- The role of a collected name is the role of a value that an entry gives.
  have hgroup : r ∈ texts.roles found ↔ ∃ entry ∈ connection.entries, ∃ v,
      entry.Gives texts.roleAttribute v ∧ texts.role (valueText v) = r := by
    rw [GroupTexts.mem_roles]
    constructor
    · rintro ⟨raw, hraw, hrole⟩
      obtain ⟨entry, hentry, v, hgives, rfl⟩ := (hmem raw).1 hraw
      exact ⟨entry, hentry, v, hgives, hrole⟩
    · rintro ⟨entry, hentry, v, hgives, hrole⟩
      exact ⟨valueText v, (hmem _).2 ⟨entry, hentry, v, hgives, rfl⟩, hrole⟩
  rw [GroupTexts.mem_withDefault, TextSet.mem_union, TextSet.mem_union, hgroup, or_assoc,
    or_assoc]
  exact Iff.rfl

/-! ## One connection -/

/-- A connection that does its work and then reports that it cannot be released. An entry has the
attribute under an upper-case name, and one of its values is octets. -/
def Connection.sample : Connection :=
  { unbindFailure := some (.directory ⟨"LDAPSocketCloseError", "gone"⟩)
    entries := [{ kind := .text "searchResEntry"
                  attributes := [("CN",
                    .list [.text "developers", .octets [111, 112, 115] false])] },
      { kind := .text "searchResRef" }] }

theorem Connection.sample_works : Connection.sample.Works where
  connects := rfl
  searches := rfl
  releases := by
    intro failure h
    cases h
    exact ⟨_, rfl⟩
  succeeds := ⟨_, _, rfl, rfl, rfl⟩

theorem resolve_grants_sample :
    let texts : GroupTexts := { base := some "ou=groups", defaultRole := some "ROLE_USER" }
    let gateway : DirectoryGateway := ⟨.text "dc=x", .connect⟩
    let hooks : Hooks := { additional := some fun _ => .ok (some (TextSet.ofList ["AUDITOR"])) }
    let resolver : Resolver := ⟨gateway.withConnection .sample, texts.config, hooks⟩
    ∃ (roles : TextSet) (after : Ambient),
      (resolver.resolve ⟨"uid=ben,dc=x", "ben", []⟩).run { logging := .configuredAt "DEBUG" }
        = (.ok { texts := roles }, after) ∧
      ("ROLE_OPS" ∈ roles ∧ "AUDITOR" ∈ roles ∧ "ROLE_USER" ∈ roles) ∧
      after.calls = [.connect, .search (.text "ou=groups,dc=x") "(member=uid=ben,dc=x)" .oneLevel
        (.text "cn"), .unbind, .additionalHook "uid=ben,dc=x" "ben"] := by
  intro texts gateway hooks resolver
  have hbase : texts.base = some "ou=groups" := rfl
  have hlegacy : (hooks.legacyConsultation ⟨"uid=ben,dc=x", "ben", []⟩).answer
      = .ok TextSet.empty := rfl
  have hadditional : (hooks.additionalConsultation ⟨"uid=ben,dc=x", "ben", []⟩).answer
      = .ok (TextSet.ofList ["AUDITOR"]) := rfl
  have hfilter : SearchFilter.render (.text texts.filter) [.text "uid=ben,dc=x", .text "ben"]
      = .ok "(member=uid=ben,dc=x)" := by cbv
  have hreadable : Readable Connection.sample.entries texts.roleAttribute :=
    readable_iff.2 (by decide)
  have htakes : (Scene.withUser (Ambient.scene { logging := .configuredAt "DEBUG" })
      "uid=ben,dc=x" "ben").Takes .resolver Resolver.loggerName .debug := by decide
  have hwarns : (Scene.withUser (Ambient.scene { logging := .configuredAt "DEBUG" })
      "uid=ben,dc=x" "ben").Takes .gateway DirectoryGateway.loggerName .warning := by decide
  obtain ⟨roles, after, hrun, hmem, hcalls⟩ := resolve_grants hbase "dc=x" .connect
    Connection.sample_works hreadable hlegacy hadditional hfilter htakes (Or.inr hwarns)
  have hbelow : DirectoryGateway.below "dc=x" "ou=groups" = "ou=groups,dc=x" := by decide
  rw [hbelow] at hcalls
  refine ⟨roles, after, hrun, ⟨(hmem _).2 (Or.inl ?_), (hmem _).2 (Or.inr (Or.inr (Or.inl ?_))),
    (hmem _).2 (Or.inr (Or.inr (Or.inr rfl)))⟩, hcalls⟩
  · refine ⟨_, List.mem_cons_self, .octets [111, 112, 115] false, ⟨rfl, _, List.mem_cons_self, ?_,
      .listed (by simp)⟩, ?_⟩
    · decide
    · decide
  · simp

/-- The same resolution grants nothing and opens no connection if the caller has bound the field
that stands for a record. -/
theorem resolve_grants_nothing_on_record :
    let texts : GroupTexts := { base := some "ou=groups", defaultRole := some "ROLE_USER" }
    let gateway : DirectoryGateway := ⟨.text "dc=x", .connect⟩
    let resolver : Resolver := ⟨gateway.withConnection .sample, texts.config, {}⟩
    let ambient : Ambient :=
      { context := [(recordField, .int 1)], logging := .configuredAt "DEBUG" }
    Connection.sample.Works ∧
      SearchFilter.render (.text texts.filter) [.text "uid=ben,dc=x", .text "ben"]
        = .ok "(member=uid=ben,dc=x)" ∧
      ∃ after, (resolver.resolve ⟨"uid=ben,dc=x", "ben", []⟩).run ambient
        = (.error .noSuchOperation, after) ∧ after.calls = [] := by
  intro texts gateway resolver ambient
  have hrefused : (ambient.scene.withUser "uid=ben,dc=x" "ben").reply Resolver.beginning
      = .error .noSuchOperation := rfl
  obtain ⟨lines, hcourse⟩ :=
    Resolver.resolve_refused resolver ⟨"uid=ben,dc=x", "ben", []⟩ hrefused
  obtain ⟨after, hrun, -, hcalls⟩ := hcourse.exists_run
  refine ⟨Connection.sample_works, ?_, after, hrun, hcalls⟩
  cbv

end GrantedRoles
