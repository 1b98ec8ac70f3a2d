import GrantedRoles.Failure

/-!
# Names of loggers

The dots of a logger's name say where the logger stands: under those whose names are its own up to
a dot, the longest first, and in the end under the root, which has two names. `enclosing` lists the
names above a name without the root's.
-/

set_option autoImplicit false

namespace GrantedRoles.Log

/-- The name under which the root is shown. -/
def rootName : String := "root"

/-- The name that a line shows; the nameless logger is the root. -/
def shownName (name : String) : String := if name = "" then rootName else name

/-- What stands before the dots of a text, both written backwards. Nothing stands before a dot at
the head, and a dot right before another one separates nothing. -/
def beforeDots : List Char → List (List Char)
  | [] => []
  | ['.'] => []
  | '.' :: c :: before => (c :: before) :: beforeDots before
  | _ :: before => beforeDots before

/-- The names above a name, from the longest on, without the root's. -/
def enclosing (name : String) : List String :=
  (beforeDots name.toList.reverse).map fun cs => String.ofList cs.reverse

/-- The name of a logger that is asked for under any value: what counts as "no" asks for the
root, and nothing else but a text is a name. -/
def nameOf (asked : Value) : Except Failure String :=
  match asked.asText? with
  | some name => .ok name
  | none => if asked.isTruthy then .error .illTyped else .ok ""

end GrantedRoles.Log
