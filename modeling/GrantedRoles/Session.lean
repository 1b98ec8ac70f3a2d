import GrantedRoles.Log.Method
import GrantedRoles.Populator
import GrantedRoles.Settings.Store

/-!
# Sessions

A process in which populators are created and users resolved, between changes of the environment,
logging and the caller's own context. A session is a sequence of steps; each step answers, reports
the calls and the lines it caused and the context it left, and passes the session on.
-/

set_option autoImplicit false

namespace GrantedRoles

open Log

/-- The state of a process between steps. If the gateway of its populator was built from settings
that the store made, the number of these is kept: that gateway opens connections with what they
hold. -/
structure Session where
  store : SettingsStore := {}
  context : Context := []
  logging : Logging := {}
  handles : Assoc Value := []
  frames : List Frame := []
  connection : Connection := {}
  populator : Option Populator := none
  source : Option Nat := none

/-- What a step does. -/
inductive SessionAction where
  | configure (service level : Value)
  | makeLogger (handle : String) (name : Value)
  | log (handle method : String) (event : Value) (fields : Assoc Value)
  | bindUser (dn username : Value)
  | unbindUser (failure : Option Failure)
  | bindContext (fields : Assoc Value)
  | changeEnvironment (changes : List (String × Value))
  | clearSettings
  | openConnections (arguments : Assoc Value) (count : Nat)
  | create (arguments : Option (Assoc Value)) (gateway : Option GatewayOffer) (hooks : Hooks)
  | resolve (user : User)

/-- A step; from here on connections may behave anew. -/
structure SessionStep where
  action : SessionAction
  connection : Option Connection := none

/-- What a step answers. -/
inductive Answer where
  | done
  | created (populator : Populator)
  | roles (roles : RoleSet)
  | failed (failure : Failure)
  | noObject

/-- The answer of a step, what it caused and what it left. -/
structure Report where
  answer : Answer
  calls : List Call := []
  lines : List Line := []
  context : Context := []

namespace Session

/-- Runs an action in the session and answers with its value. -/
def perform {α : Type} (session : Session) (action : Action α)
    (answer : α → Session → Answer × Session) : Answer × List Call × List Line × Session :=
  let (outcome, after) := action.run { context := session.context, logging := session.logging }
  let next := { session with context := after.context, logging := after.logging }
  match outcome with
  | .ok a =>
      let (answered, final) := answer a next
      (answered, after.calls, after.lines, final)
  | .error failure => (.failed failure, after.calls, after.lines, next)

/-- Runs an action in the session for its effects. -/
def performUnit (session : Session) (action : Action Unit) :
    Answer × List Call × List Line × Session :=
  session.perform action fun _ next => (.done, next)

/-- Opens connections one after the other and keeps none. -/
def openTimes (connection : Connection) (opening : Call) : Nat → Action Unit
  | 0 => pure ()
  | count + 1 => do
      Action.call opening
      DirectoryGateway.failWith connection.connectFailure
      openTimes connection opening count

/-- Performs what a call of a logger comes to. -/
def produce (logger : Logger) (name : String) : Effect → Action Unit
  | .nothing => pure ()
  | .line level event fields => Action.log { logger, name, level, event, fields }
  | .setThreshold severity => Action.adjust (·.setThreshold name severity)
  | .attach handler => Action.adjust (·.attach name handler)
  | .detach handler => Action.adjust (·.detach name handler)

/-- Asks the logger of a handle for what it has under a name. The logger counts as used even if
it then refuses; without a configuration its own name does not matter. -/
def logThrough (session : Session) (handle : String) (asked : Value) (method : String)
    (event : Value) (fields : Assoc Value) : Action Unit :=
  let configured := session.logging.isConfigured
  let member := Member.ofName? configured method
  let logger := Logger.handle handle
  do
    let name ← Action.ofExcept (if configured then nameOf asked else .ok "")
    if Member.isUse member fields then Action.touch logger
    let effect ← Action.ofExcept (Member.request configured member event fields)
    produce logger name effect

/-- The settings that keyword arguments give, if there are any. -/
def givenSettings (store : SettingsStore) (arguments : Option (Assoc Value)) :
    Except Failure (Option Settings) :=
  match arguments with
  | none => .ok none
  | some arguments => (Settings.construct store.machine store.environment arguments).map some

/-- The given settings, or else those that the store fetches or makes. Settings from which something
was taken away are refused at once, not when what they lack is needed. -/
def settingsOr (given : Option Settings) (store : SettingsStore) :
    Except Failure Settings × SettingsStore :=
  match given with
  | some settings => (.ok settings, store)
  | none =>
      let (outcome, after) := store.fetch
      (outcome.bind fun found => found.2.settings, after)

/-- The number of the settings that a gateway is built from, if they are the store's. -/
def sourceIn (store : SettingsStore) (given : Option Settings) (offer : Option GatewayOffer) :
    Option Nat :=
  if given.isNone && offer.isNone then store.cached else none

/-- Creates a populator. Given settings are validated first, then the offered gateway is made, then
settings are fetched if none were given; from the offer on, connections behave as it says. -/
def create (session : Session) (arguments : Option (Assoc Value)) (offer : Option GatewayOffer)
    (hooks : Hooks) : Answer × List Call × List Line × Session :=
  match givenSettings session.store arguments with
  | .error failure => (.failed failure, [], [], session)
  | .ok given =>
      let ready := { session with
        connection := (offer.bind GatewayOffer.connection?).getD session.connection }
      match offer.mapM GatewayOffer.accept with
      | .error failure => (.failed failure, [], [], ready)
      | .ok gateway =>
          match settingsOr given ready.store with
          | (.error failure, store) => (.failed failure, [], [], { ready with store })
          | (.ok settings, store) =>
              { ready with store }.perform (Populator.create settings gateway hooks)
                fun populator next =>
                  (.created populator,
                    { next with populator := some populator, source := sourceIn store given offer })

/-- Performs the action of a step. -/
def act (session : Session) : SessionAction → Answer × List Call × List Line × Session
  | .configure service level => session.performUnit (Action.configureLogging service level)
  | .makeLogger handle name =>
      (.done, [], [],
        { session with handles := session.handles.put handle name,
                       logging := session.logging.renew (.handle handle) })
  | .log handle method event fields =>
      match session.handles.get? handle with
      | none => (.noObject, [], [], session)
      | some name => session.performUnit (session.logThrough handle name method event fields)
  | .bindUser dn username =>
      let (context, frame) := session.context.enter dn username
      (.done, [], [], { session with context, frames := frame :: session.frames })
  | .unbindUser failure =>
      match session.frames with
      | [] => (.noObject, [], [], session)
      | frame :: outer =>
          (failure.elim .done .failed, [], [],
            { session with context := session.context.leave frame, frames := outer })
  | .bindContext fields =>
      (.done, [], [], { session with context := Assoc.putAll session.context fields })
  | .changeEnvironment changes =>
      let (outcome, store) := session.store.changeEnvironment changes
      (match outcome with
        | .ok () => .done
        | .error failure => .failed failure,
        [], [], { session with store })
  | .clearSettings => (.done, [], [], { session with store := session.store.clear })
  | .openConnections arguments count =>
      match Settings.construct session.store.machine session.store.environment arguments with
      | .error failure => (.failed failure, [], [], session)
      | .ok settings =>
          session.performUnit do
            let opening ← Populator.connectionFactory settings
            openTimes session.connection opening count
  | .create arguments offer hooks => session.create arguments offer hooks
  | .resolve user =>
      match session.populator with
      | none => (.noObject, [], [], session)
      | some populator =>
          session.perform ((populator.resolver session.connection).resolve user)
            fun roles next => (.roles roles, next)

/-- Performs a step. -/
def step (session : Session) (s : SessionStep) : Report × Session :=
  let ready := { session with connection := s.connection.getD session.connection }
  let (answer, calls, lines, next) := ready.act s.action
  ({ answer, calls, lines, context := next.context }, next)

/-- Performs steps in order. -/
def runAll (session : Session) : List SessionStep → List Report × Session
  | [] => ([], session)
  | s :: rest =>
      let (report, next) := session.step s
      let (reports, last) := next.runAll rest
      (report :: reports, last)

end Session

end GrantedRoles
