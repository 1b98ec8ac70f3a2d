import GrantedRoles.User

/-!
# Users and the data they were made from

A user takes a copy of the attribute mapping, but not of the lists in it: the mapping of the
caller and the mapping of the user hold the same lists. Assigning in the caller's mapping leaves
the user alone, and appending to one of its lists changes both. Nobody can assign in the user's
mapping or to a field of the user.
-/

set_option autoImplicit false

namespace GrantedRoles

/-- What a mapping holds under a name: a text, or one of the shared lists by its number. -/
inductive Holding where
  | single (s : String)
  | shared (index : Nat)
  deriving DecidableEq, Repr

/-- The lists that mappings share. -/
abbrev SharedLists := List (List String)

namespace SharedLists

/-- Keeps values: a list becomes a shared list. -/
def hold (lists : SharedLists) : AttributeValues → Holding × SharedLists
  | .single s => (.single s, lists)
  | .listed items => (.shared lists.length, lists ++ [items])

/-- What is held. -/
def read (lists : SharedLists) : Holding → AttributeValues
  | .single s => .single s
  | .shared index => .listed (lists.getD index [])

/-- A whole mapping, read. -/
def readAll (lists : SharedLists) (mapping : Assoc Holding) : Assoc AttributeValues :=
  mapping.map fun entry => (entry.1, lists.read entry.2)

/-- Keeps a mapping, each list of it as a list of its own. -/
def holdAll (lists : SharedLists) : Assoc AttributeValues → Assoc Holding × SharedLists
  | [] => ([], lists)
  | (name, values) :: rest =>
      let (holding, lists) := lists.hold values
      let (holdings, lists) := lists.holdAll rest
      ((name, holding) :: holdings, lists)

end SharedLists

/-- A user together with the mapping of the caller that it was made from. -/
structure SourcedUser where
  dn : String
  username : String
  source : Assoc Holding
  attributes : Assoc Holding
  lists : SharedLists

namespace SourcedUser

/-- A new user has what its source has. -/
def ofSource (dn username : String) (source : Assoc AttributeValues) : SourcedUser :=
  let (holdings, lists) := SharedLists.holdAll [] source
  { dn, username, source := holdings, attributes := holdings, lists }

/-- The user as it is now. -/
def user (s : SourcedUser) : User :=
  { dn := s.dn, username := s.username, attributes := s.lists.readAll s.attributes }

/-- The caller assigns in its mapping. -/
def changeSource (s : SourcedUser) (name : String) (values : AttributeValues) : SourcedUser :=
  let (holding, lists) := s.lists.hold values
  { s with source := s.source.put name holding, lists }

/-- The caller assigns a list that is there, in its mapping. -/
def shareSource (s : SourcedUser) (name : String) (index : Nat) : SourcedUser :=
  { s with source := s.source.put name (.shared index) }

/-- Appends to the list that a mapping holds under a name. A text cannot be appended to. -/
def appendHeld (s : SourcedUser) (mapping : Assoc Holding) (name value : String) :
    Except Failure SourcedUser :=
  match mapping.get? name with
  | none => .error (.missingKey (.text name))
  | some (.single _) => .error .noSuchOperation
  | some (.shared index) => .ok { s with lists := s.lists.modify index (· ++ [value]) }

/-- The caller appends to a list in its mapping. -/
def appendSource (s : SourcedUser) (name value : String) : Except Failure SourcedUser :=
  s.appendHeld s.source name value

/-- Whoever is shown the user appends to a list in the user's mapping. -/
def appendAttribute (s : SourcedUser) (name value : String) : Except Failure SourcedUser :=
  s.appendHeld s.attributes name value

end SourcedUser

/-- What is tried with the data of a user: the caller assigns in its mapping, new values or a list
that is there, and appends to a list in it; whoever is shown the user appends to a list in the
user's mapping, and assigns in that mapping or to a field. -/
inductive DataAction where
  | changeSource (name : String) (values : AttributeValues)
  | shareSource (name : String) (index : Nat)
  | appendSource (name value : String)
  | appendAttribute (name value : String)
  | assignAttribute (name : String)
  | assignField (field : String)

namespace SourcedUser

/-- Tries an action. -/
def step (s : SourcedUser) : DataAction → Except Failure SourcedUser
  | .changeSource name values => .ok (s.changeSource name values)
  | .shareSource name index => .ok (s.shareSource name index)
  | .appendSource name value => s.appendSource name value
  | .appendAttribute name value => s.appendAttribute name value
  | .assignAttribute name => .error (s.user.assignAttribute name)
  | .assignField field => .error (s.user.assign field)

/-- The data after an action; a refused one leaves them as they are. -/
def after (s : SourcedUser) (action : DataAction) : SourcedUser := (s.step action).toOption.getD s

/-- The data after actions in order. -/
def afterAll (s : SourcedUser) (actions : List DataAction) : SourcedUser := actions.foldl after s

end SourcedUser

end GrantedRoles
