import GrantedRoles.Resolver
import GrantedRoles.Settings.Construction

/-!
# Building a resolver from settings

A populator is a resolver that was wired from settings: logging is configured first, then a
directory gateway is built unless the caller supplies a gateway, then the group search is read.
No connection is opened before a resolution searches.
-/

set_option autoImplicit false

namespace GrantedRoles

/-- The gateway of a populator: to a directory, or in memory. -/
inductive GatewayChoice where
  | directory (gateway : DirectoryGateway)
  | memory (gateway : MemoryGateway)

namespace GatewayChoice

/-- The gateway, when directory connections behave like this one. -/
def toGateway (choice : GatewayChoice) (connection : Connection) : Gateway :=
  match choice with
  | directory gateway => gateway.withConnection connection
  | memory gateway => gateway.toGateway

/-- The root of the gateway. -/
def rootDn : GatewayChoice → Value
  | directory gateway => gateway.rootDn
  | memory gateway => gateway.rootDn

/-- The kind of the gateway by name. -/
def kindName : GatewayChoice → String
  | directory _ => "Ldap3SearchGateway"
  | memory _ => "MemoryGateway"

end GatewayChoice

/-- A gateway that a caller supplies: one in memory, or one to a directory with this root, whose
connections behave like this one. -/
inductive GatewayOffer where
  | memory (gateway : MemoryGateway)
  | directory (rootDn : Value) (connection : Connection)

namespace GatewayOffer

/-- The gateway that is offered, if it can be made. -/
def accept : GatewayOffer → Except Failure GatewayChoice
  | memory gateway => .ok (.memory gateway)
  | directory rootDn _ =>
      (DirectoryGateway.create (some .connect) rootDn).map GatewayChoice.directory

/-- How the connections of the offered gateway behave. -/
def connection? : GatewayOffer → Option Connection
  | memory _ => none
  | directory _ connection => some connection

end GatewayOffer

/-- A gateway, a configuration and hooks. -/
structure Populator where
  gateway : GatewayChoice
  config : GroupSearch
  hooks : Hooks

namespace Populator

/-- The resolver, when directory connections behave like this one. -/
def resolver (populator : Populator) (connection : Connection) : Resolver :=
  { gateway := populator.gateway.toGateway connection, config := populator.config,
    hooks := populator.hooks }

/-- The call that opens a connection to the directory of the settings: it is bound at once, and only
reads. -/
def opening (settings : Settings) : Call :=
  .connection (settings.get .ldapUrl) (settings.get .bindDn) (settings.get .bindPassword) true true

/-- Makes the opening of connections ready; there must be a directory to connect to. -/
def connectionFactory (settings : Settings) : Action Call :=
  if (settings.get .ldapUrl).isTruthy then do
    Action.call (.server (settings.get .ldapUrl))
    pure (opening settings)
  else Action.fail (.configuration .noDirectoryUrl)

/-- Builds the gateway to the directory of the settings. -/
def buildGateway (settings : Settings) : Action GatewayChoice := do
  let opening ← connectionFactory settings
  let gateway ← Action.ofExcept (DirectoryGateway.create (some opening) (settings.get .rootDn))
  pure (.directory gateway)

/-- Configures logging as the settings say. -/
def configureLogging (settings : Settings) : Action Unit :=
  Action.configureLogging (settings.get .serviceName) (settings.get .logLevel)

/-- Builds a populator from settings, with the caller's gateway if there is one. -/
def create (settings : Settings) (supplied : Option GatewayChoice) (hooks : Hooks) :
    Action Populator := do
  configureLogging settings
  let gateway ←
    match supplied with
    | some gateway => pure gateway
    | none => buildGateway settings
  let config ← Action.ofExcept settings.groupSearch
  let made ← Resolver.create (some (gateway.toGateway {})) config hooks
  pure { gateway, config, hooks := made.hooks }

end Populator

end GrantedRoles
