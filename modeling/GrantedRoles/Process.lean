import GrantedRoles.Session

/-!
# Processes

A process is a session whose caller also makes settings itself, gets the cached ones and assigns to
the current ones. What the session creates reads the same environment and the same cache. A gateway
that was built from settings opens each connection with the user and the password that they hold by
then, so an assignment to them shows in its next connection.
-/

set_option autoImplicit false

namespace GrantedRoles

/-- A step of a process: one of its session, or one with settings. -/
inductive ProcessStep where
  | session (s : SessionStep)
  | make (arguments : Assoc Value)
  | get
  | assign (name : String) (value : Value)

/-- What a step of a process reports; no object if there is none to assign to. -/
inductive ProcessReport where
  | session (report : Report)
  | made (outcome : Except Failure SettingsObject)
  | got (outcome : Except Failure (SettingsObject × Bool))
  | assigned (outcome : Except Failure SettingsObject)
  | noObject

/-- The call, with the user and the password that the settings hold. -/
def Call.reread (object : SettingsObject) : Call → Call
  | .connection url user password autoBind readOnly =>
      .connection url ((object.read SettingField.bindDn.name).toOption.getD user)
        ((object.read SettingField.bindPassword.name).toOption.getD password) autoBind readOnly
  | other => other

/-- The gateway, if to a directory, with connections opened as the settings say. -/
def GatewayChoice.reread (object : SettingsObject) : GatewayChoice → GatewayChoice
  | .directory gateway => .directory { gateway with opening := gateway.opening.reread object }
  | .memory gateway => .memory gateway

/-- The populator over such a gateway. -/
def Populator.reread (object : SettingsObject) (populator : Populator) : Populator :=
  { populator with gateway := populator.gateway.reread object }

namespace Session

/-- The populator opens connections with what the settings that it was built from hold. -/
def rewire (session : Session) : Session :=
  match session.source.bind session.store.object? with
  | none => session
  | some object => { session with populator := session.populator.map (Populator.reread object) }

/-- Performs a step of a process. -/
def proceed (session : Session) : ProcessStep → ProcessReport × Session
  | .session s =>
      let (report, next) := session.step s
      (.session report, next)
  | .make arguments =>
      let (outcome, store) := session.store.make arguments
      (.made outcome, { session with store })
  | .get =>
      let (outcome, store) := session.store.get
      (.got outcome, { session with store })
  | .assign name value =>
      match session.store.assign name value with
      | none => (.noObject, session)
      | some (outcome, store) => (.assigned outcome, { session with store }.rewire)

/-- Performs steps of a process in order. -/
def proceedAll (session : Session) : List ProcessStep → List ProcessReport × Session
  | [] => ([], session)
  | s :: rest =>
      let (report, next) := session.proceed s
      let (reports, last) := next.proceedAll rest
      (report :: reports, last)

end Session

end GrantedRoles
