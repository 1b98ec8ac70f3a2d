import GrantedRoles.Proofs.Directory.Search

/-!
# Failing closed

A resolution asks nobody after a failure, and the failure is its outcome (`resolve_fails_closed`).
That holds over every gateway of which is known what asking it comes to; the gateway in memory is
one (`Gateway.consults_answering`), and so is the directory gateway over any connection
(`DirectoryGateway.consults_consulted`). A resolution that cannot say that it begins is refused
before it asks anybody.
-/

set_option autoImplicit false

namespace GrantedRoles

open Log

/-- What a resolution asks: the gateway if there is a base, be it empty, which comes to this, then
the legacy hook, then the additional hook. -/
def consultations (texts : GroupTexts) (hooks : Hooks) (asked : Consultation) (user : User) :
    List Consultation :=
  [texts.consultation (fun _ => asked) user, hooks.legacyConsultation user,
    hooks.additionalConsultation user]

/-- **Resolutions fail closed.** Say that asking the gateway for the groups of the user, if there is
a base, comes to some calls and an answer. If the resolution can say that it begins, it makes the
calls of its consultations up to the first that fails; it fails exactly if one of them does, and
with that failure. If it cannot, it asks nobody and fails with the refusal. The bound context is
afterwards what it was before, however the resolution ends. -/
theorem resolve_fails_closed {texts : GroupTexts} (hooks : Hooks) {gateway : Gateway} {user : User}
    {ambient : Ambient} {asked : Consultation}
    (hasked : ∀ base, texts.base = some base →
      gateway.Consults (ambient.scene.withUser user.dn user.username) (texts.query base user)
        asked) :
    let resolver : Resolver := ⟨gateway, texts.config, hooks⟩
    let consulted := consultations texts hooks asked user
    ∃ outcome after, (resolver.resolve user).run ambient = (outcome, after) ∧
      after.context = ambient.context ∧
      match (ambient.scene.withUser user.dn user.username).reply Resolver.beginning with
      | .ok () =>
          after.calls = ambient.calls ++ Consultation.callsMade consulted ∧
            ∀ failure,
              outcome = .error failure ↔ Consultation.firstFailure? consulted = some failure
      | .error refusal => outcome = .error refusal ∧ after.calls = ambient.calls := by
  intro resolver consulted
  cases hbegins : (ambient.scene.withUser user.dn user.username).reply Resolver.beginning with
  | ok done =>
    have hconfig : resolver.config = texts.config := rfl
    have htakes : (ambient.scene.withUser user.dn user.username).Takes .resolver
        Resolver.loggerName .debug := (Resolver.takes_iff_reply_noted _).2 hbegins
    obtain ⟨lines, hcourse⟩ :=
      Resolver.resolve_course (fun _ => asked) hconfig htakes hasked
    obtain ⟨after, hrun, hcontext, hcalls⟩ := hcourse.exists_run
    refine ⟨_, after, hrun, hcontext, hcalls, ?_⟩
    intro failure
    rw [SearchFilter.map_eq_error_iff]
    exact Consultation.gather_eq_error_iff
  | error refusal =>
    obtain ⟨lines, hcourse⟩ := resolver.resolve_refused user hbegins
    obtain ⟨after, hrun, hcontext, hcalls⟩ := hcourse.exists_run
    rw [List.append_nil] at hcalls
    exact ⟨_, after, hrun, hcontext, rfl, hcalls⟩

/-- A directory that cannot be reached fails: the hooks are not called, and there is no default
role. -/
theorem resolve_fails_closed_unreached :
    let texts : GroupTexts := { base := some "ou=groups", defaultRole := some "ROLE_USER" }
    let fault : DirectoryFault := ⟨"LDAPSocketOpenError", "unreachable"⟩
    let gateway : DirectoryGateway := ⟨.text "dc=x", .connect⟩
    let connection : Connection := { connectFailure := some (.directory fault) }
    let hooks : Hooks := { additional := some fun _ => .ok (some (TextSet.ofList ["AUDITOR"])) }
    let user : User := ⟨"uid=ben,dc=x", "ben", []⟩
    ∃ after, (Resolver.resolve ⟨gateway.withConnection connection, texts.config, hooks⟩ user).run {}
        = (.error (.search (.noConnection fault)), after) ∧
      after.calls = [.connect] := by
  intro texts fault gateway connection hooks user
  have hprepared : gateway.prepare (texts.query "ou=groups" user)
      = .ok ("(member=uid=ben,dc=x)", .text "ou=groups,dc=x") := by cbv
  have hconsults := gateway.consults_consulted ((Ambient.scene {}).withUser user.dn user.username)
    connection (texts.query "ou=groups" user)
  simp only [DirectoryGateway.consulted, DirectoryGateway.searchCalls,
    DirectoryGateway.searchOutcome, hprepared] at hconsults
  have hasked : ∀ base, texts.base = some base →
      (gateway.withConnection connection).Consults
        ((Ambient.scene {}).withUser user.dn user.username) (texts.query base user)
        ⟨[.connect], .error (.search (.noConnection fault))⟩ := by
    rintro base ⟨⟩
    exact hconsults
  have hbegins : ((Ambient.scene {}).withUser user.dn user.username).reply Resolver.beginning
      = .ok () := (Resolver.takes_iff_reply_noted _).1 (by decide)
  obtain ⟨outcome, after, hrun, -, hend⟩ := resolve_fails_closed hooks hasked
  simp only [hbegins] at hend
  obtain ⟨hcalls, hfailure⟩ := hend
  have hfailed : outcome = .error (.search (.noConnection fault)) := (hfailure _).2 rfl
  rw [hfailed] at hrun
  exact ⟨after, hrun, hcalls⟩

/-- A caller who binds the field that stands for a record makes a resolution fail although nobody
who is asked would fail, and makes it ask nobody. -/
theorem resolve_fails_on_record :
    let texts : GroupTexts := { base := some "ou=groups" }
    let memory : MemoryGateway := { values := ["developers"] }
    let user : User := ⟨"uid=ben,dc=x", "ben", []⟩
    let asked : Consultation :=
      ⟨[.gateway (texts.query "ou=groups" user)], .ok (TextSet.ofList memory.values)⟩
    let ambient : Ambient :=
      { context := [(recordField, .int 1)], logging := .configuredAt "DEBUG" }
    memory.toGateway.Consults (ambient.scene.withUser user.dn user.username)
        (texts.query "ou=groups" user) asked ∧
      Consultation.firstFailure? (consultations texts {} asked user) = none ∧
      ∃ after, (Resolver.resolve ⟨memory.toGateway, texts.config, {}⟩ user).run ambient
          = (.error .noSuchOperation, after) ∧
        after.calls = [] := by
  intro texts memory user asked ambient
  have hrefused : (ambient.scene.withUser user.dn user.username).reply Resolver.beginning
      = .error .noSuchOperation := rfl
  obtain ⟨lines, hcourse⟩ :=
    Resolver.resolve_refused ⟨memory.toGateway, texts.config, {}⟩ user hrefused
  obtain ⟨after, hrun, -, hcalls⟩ := hcourse.exists_run
  refine ⟨?_, rfl, after, hrun, hcalls⟩
  rw [memory.toGateway_eq]
  exact Gateway.consults_answering memory.rootDn _ _

end GrantedRoles
