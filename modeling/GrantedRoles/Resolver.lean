import GrantedRoles.Directory.Gateway
import GrantedRoles.GroupSearch
import GrantedRoles.Hooks
import GrantedRoles.RoleSet

/-!
# Resolving roles

The roles of a user are the names of the user's groups, made into roles; what the legacy and the
additional hook contribute; and the default role. Whatever fails on the way ends the resolution,
and no role set is returned. The user is bound in the logging context for its whole length.
-/

set_option autoImplicit false

namespace GrantedRoles

open Log

/-- A resolver of roles. -/
structure Resolver where
  gateway : Gateway
  config : GroupSearch := {}
  hooks : Hooks := {}

namespace Resolver

/-- The logger's name. -/
def loggerName : String := "ldap_authorities.populator.resolver"

/-- Logs a line. -/
def note (level : Level) (event : String) (fields : List (String × Value)) : Action Unit :=
  Action.log
    { logger := .resolver, name := loggerName, level := level, event := .text event,
      fields := fields }

/-- A resolver needs a gateway; hooks that do not count are replaced, and an empty search base is
worth a line. -/
def create (gateway : Option Gateway) (config : GroupSearch) (hooks : Hooks) : Action Resolver :=
  match gateway with
  | none => Action.fail (.absent .gateway)
  | some gateway => do
      if config.base.same (.text "") then
        note .info "group_search_base_empty"
          [("detail", .text "Searches will be performed from the root"),
            ("root_dn", gateway.rootDn)]
      pure { gateway, config, hooks := hooks.orDefault }

/-- The query for the groups of a user. -/
def query (config : GroupSearch) (user : User) : Query :=
  { base := config.base, template := config.filter,
    params := [.text user.dn, .text user.username], wanted := config.roleAttribute,
    scope := .scope config.scope }

/-- The roles of the names found in the directory. -/
def normalizeAll (config : GroupSearch) : List String → Except Failure (List String)
  | [] => .ok []
  | raw :: rest =>
      match config.normalizeText raw with
      | .error failure => .error failure
      | .ok role => (normalizeAll config rest).map (role :: ·)

/-- The roles of the user's groups; none if groups are not searched. -/
def groupRoles (resolver : Resolver) (user : User) : Action TextSet :=
  let config := resolver.config
  if config.searchEnabled then do
    note .debug "searching_group_roles"
      [("filter", config.filter), ("search_base", config.base), ("scope", .scope config.scope)]
    let found ← resolver.gateway.search (query config user)
    note .debug "group_search_roles" [("roles", .list (found.toList.map .text))]
    let roles ← Action.ofExcept (normalizeAll config found.toList)
    pure (TextSet.ofList roles)
  else pure TextSet.empty

/-- What the legacy hook contributes. -/
def legacyRoles (resolver : Resolver) (user : User) : Action TextSet :=
  match resolver.hooks.legacy with
  | none => pure TextSet.empty
  | some hook => do
      Action.call (.legacyHook user.dn
        (user.attributes.map fun entry => (entry.1, entry.2.items)))
      let roles ← Action.ofExcept (hook user.dn user.attributes)
      pure (roles.getD TextSet.empty)

/-- What the additional hook contributes. -/
def additionalRoles (resolver : Resolver) (user : User) : Action TextSet :=
  match resolver.hooks.additional with
  | none => pure TextSet.empty
  | some hook => do
      Action.call (.additionalHook user.dn user.username)
      let roles ← Action.ofExcept (hook user)
      pure (roles.getD TextSet.empty)

/-- The roles of a user. -/
def resolve (resolver : Resolver) (user : User) : Action RoleSet :=
  Action.withUser user.dn user.username do
    note .debug "resolving_authorities" []
    let found ← resolver.groupRoles user
    let legacy ← resolver.legacyRoles user
    let additional ← resolver.additionalRoles user
    Action.ofExcept
      (RoleSet.withDefault ((found.union legacy).union additional) resolver.config.defaultRole)

end Resolver

end GrantedRoles
