import GrantedRoles.Action
import GrantedRoles.Directory.Connection
import GrantedRoles.SearchFilter.Render

/-!
# Directory gateways

A gateway answers queries with the distinct values of an attribute. The directory gateway opens
one connection for each query and always releases it; what the directory client reports becomes a
failed search, whatever it was. A gateway in memory records the query and gives a fixed answer.
-/

set_option autoImplicit false

namespace GrantedRoles

open Log

/-- What a resolution needs of a directory: its root, which diagnostics show, and an answer to a
query. -/
structure Gateway where
  rootDn : Value
  search : Query → Action TextSet

/-- A gateway in memory. -/
structure MemoryGateway where
  rootDn : Value := .text "dc=example,dc=org"
  values : List String := []
  failure : Option Failure := none

/-- Records the query and gives the fixed answer. -/
def MemoryGateway.toGateway (memory : MemoryGateway) : Gateway where
  rootDn := memory.rootDn
  search query := do
    Action.call (.gateway query)
    match memory.failure with
    | some failure => Action.fail failure
    | none => pure (TextSet.ofList memory.values)

/-- A gateway to a directory: the root below which bases lie, and the call that opens a
connection. -/
structure DirectoryGateway where
  rootDn : Value
  opening : Call

namespace DirectoryGateway

/-- A gateway needs a way to connect and a root, though the root may be empty. -/
def create (opening : Option Call) (rootDn : Value) : Except Failure DirectoryGateway :=
  match opening with
  | none => .error (.absent .connectionFactory)
  | some opening =>
      match require rootDn .rootDn with
      | .error failure => .error failure
      | .ok () => .ok ⟨rootDn, opening⟩

/-- The base of a search: below the root, at the root if it is empty, as it is if there is no
root. -/
def absoluteBase (gateway : DirectoryGateway) (base : Value) : Except Failure Value :=
  if !base.isTruthy then .ok gateway.rootDn
  else if !gateway.rootDn.isTruthy then .ok base
  else if base.isWritable && gateway.rootDn.isWritable then
    .ok (.text (base.display ++ "," ++ gateway.rootDn.display))
  else .error .unwritable

/-- The filter and the base of a search. -/
def prepare (gateway : DirectoryGateway) (query : Query) : Except Failure (String × Value) := do
  let filter ← SearchFilter.render query.template query.params
  let base ← gateway.absoluteBase query.base
  pure (filter, base)

/-- The logger's name. -/
def loggerName : String := "ldap_authorities.directory.ldap3_gateway"

/-- Logs a warning. -/
def warn (event : String) (fields : List (String × Value)) : Action Unit :=
  Action.log
    { logger := .gateway, name := loggerName, level := .warning, event := .text event,
      fields := fields }

/-- Fails if there is a failure. -/
def failWith (failure : Option Failure) : Action Unit :=
  match failure with
  | some failure => Action.fail failure
  | none => pure ()

/-- The scope of a query; a word stands for its scope. -/
def scopeOf (scope : Value) : Except Failure Scope :=
  match scope.asText?.bind Scope.ofWord? with
  | some known => .ok known
  | none => .error (if scope.isHashable then .missingKey scope else .illTyped)

/-- Opens a connection. -/
def connect (gateway : DirectoryGateway) (connection : Connection) (base : Value) : Action Unit :=
  (do
    Action.call gateway.opening
    failWith connection.connectFailure).recover fun
      | .directory fault => some do
          warn "directory_search_failed" [("base", base), ("error", .text fault.message)]
          Action.fail (.search (.noConnection fault))
      | _ => none

/-- Releases a connection; that the directory refuses it does not matter. -/
def release (connection : Connection) (base : Value) : Action Unit :=
  (do
    Action.call .unbind
    failWith connection.unbindFailure).recover fun
      | .directory fault => some
          (warn "directory_unbind_failed" [("base", base), ("error", .text fault.message)])
      | _ => none

/-- Searches on an open connection. -/
def exchange (connection : Connection) (base : Value) (filter : String) (query : Query) :
    Action TextSet :=
  (do
    let scope ← Action.ofExcept (scopeOf query.scope)
    Action.call (.search base filter scope query.wanted)
    failWith connection.searchFailure
    match ← Action.ofExcept (Connection.verdict connection.result) with
    | .unknown =>
        warn "directory_search_failed"
          [("base", base), ("filter", .text filter), ("result", .null)]
        Action.fail (.quoting [base] (.search (.noResult base filter)))
    | .refused code description =>
        warn "directory_search_failed"
          [("base", base), ("filter", .text filter), ("result", code),
            ("description", description)]
        Action.fail (.quoting [base, description, code]
          (.search (.refused base filter description code)))
    | .success => Action.ofExcept (collect connection.entries query.wanted)).recover fun
      | .directory fault => some do
          warn "directory_search_failed"
            [("base", base), ("filter", .text filter), ("error", .text fault.message)]
          Action.fail (.quoting [base] (.search (.interrupted base filter fault)))
      | _ => none

/-- Answers a query over a new connection. The search is prepared before anything is opened. -/
def search (gateway : DirectoryGateway) (connection : Connection) (query : Query) :
    Action TextSet := do
  let (filter, base) ← Action.ofExcept (gateway.prepare query)
  gateway.connect connection base
  (exchange connection base filter query).ensuring (release connection base)

/-- The gateway, when its connections behave like this one. -/
def withConnection (gateway : DirectoryGateway) (connection : Connection) : Gateway where
  rootDn := gateway.rootDn
  search := gateway.search connection

end DirectoryGateway

end GrantedRoles
