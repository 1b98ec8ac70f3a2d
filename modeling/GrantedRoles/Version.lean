/-!
# The version of this library
-/

set_option autoImplicit false

namespace GrantedRoles

/-- The version that the library reports. -/
def version : String := "0.1.0"

end GrantedRoles
