import GrantedRoles.Value

/-!
# Directory queries

What a resolution asks the directory for: the values of one attribute over all entries that match
a filter below a base.
-/

set_option autoImplicit false

namespace GrantedRoles

/-- A search, as it is asked for: the base is relative to the directory's root, the filter is a
template with its parameters, and the scope is a scope or its word. -/
structure Query where
  base : Value
  template : Value
  params : List Value
  wanted : Value
  scope : Value

end GrantedRoles
