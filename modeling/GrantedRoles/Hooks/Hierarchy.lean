import GrantedRoles.Hooks
import GrantedRoles.Hooks.Linearization

/-!
# Hook classes

Hooks are written as classes that derive from `RoleHooks`, directly or through others. A class
overrides the legacy hook, restores the inert one of `RoleHooks`, or leaves it to its bases; the
additional hook it overrides or leaves to its bases. A class whose instances would run an override
of the legacy hook is warned about where it is defined.
-/

set_option autoImplicit false

namespace GrantedRoles

open Linearization

/-- What a class that has a hook of its own makes of it: a contribution, or nothing as in
`RoleHooks`. -/
inductive HookMember where
  | overridden
  | inert
  deriving DecidableEq, Repr

/-- The definition of a class: its name, the names of its bases, and its members. -/
structure ClassDefinition where
  name : String
  bases : List String := ["RoleHooks"]
  legacy : Option HookMember := none
  additional : Option HookMember := none

/-- A defined class: its name, its members, and the order in which members are looked up. -/
structure HookClass where
  name : String
  legacy : Option HookMember
  additional : Option HookMember
  order : List ClassId

/-- The classes defined so far, by number. -/
abbrev Hierarchy := List HookClass

namespace Hierarchy

/-- The number of `RoleHooks`. -/
def rootId : ClassId := 0

/-- The base of all hooks, whose own hooks are inert. -/
def root : HookClass := ⟨"RoleHooks", some .inert, some .inert, [rootId]⟩

/-- Before any definition there is only `RoleHooks`. -/
def initial : Hierarchy := [root]

/-- The class defined last under a name. -/
def find? (h : Hierarchy) (name : String) : Option ClassId :=
  (h.zipIdx.reverse.find? fun entry => entry.1.name == name).map Prod.snd

/-- The classes that names stand for. -/
def findAll (h : Hierarchy) : List String → Except Failure (List ClassId)
  | [] => .ok []
  | name :: rest =>
      match h.find? name with
      | none => .error (.missingKey (.text name))
      | some c => (h.findAll rest).map (c :: ·)

/-- The lookup order of a class. -/
def orderOf (h : Hierarchy) (c : ClassId) : List ClassId := (h[c]?).elim [] HookClass.order

/-- The classes of a lookup order. -/
def classes (h : Hierarchy) (order : List ClassId) : List HookClass := order.filterMap (h[·]?)

/-- Defines a class, which gets the next number. Its bases must be known, its name must be one,
the bases must be different, and their orders must agree. -/
def define (h : Hierarchy) (definition : ClassDefinition) : Except Failure (Hierarchy × ClassId) :=
  match h.findAll definition.bases with
  | .error failure => .error failure
  | .ok bases =>
      if definition.name.toList.contains '\x00' then .error (.value .nulInClassName)
      else if bases.eraseDups.length < bases.length then .error .illTyped
      else
        match merge (bases.map h.orderOf ++ [bases]) with
        | none => .error .illTyped
        | some inherited =>
            let c := h.length
            .ok (h ++ [⟨definition.name, definition.legacy, definition.additional,
              c :: inherited⟩], c)

/-- The class whose legacy hook an instance runs, and what that class says about it. -/
def legacyMember? (h : Hierarchy) (c : ClassId) : Option (HookClass × HookMember) :=
  (h.classes (h.orderOf c)).findSome? fun cls => cls.legacy.map (cls, ·)

/-- The class whose additional hook an instance runs, and what that class says about it. -/
def additionalMember? (h : Hierarchy) (c : ClassId) : Option (HookClass × HookMember) :=
  (h.classes (h.orderOf c)).findSome? fun cls => cls.additional.map (cls, ·)

/-- A class derives from `RoleHooks`. -/
def derives (h : Hierarchy) (c : ClassId) : Bool := (h.orderOf c).contains rootId

/-- The warning that the definition of a class causes: its instances would run an override of the
legacy hook. -/
def warning? (h : Hierarchy) (c : ClassId) : Option String :=
  match h[c]?, h.legacyMember? c with
  | some cls, some (_, .overridden) =>
      if h.derives c then
        some (cls.name ++ " overrides RoleHooks.legacy_group_roles, which is deprecated; "
          ++ "implement additional_roles instead")
      else none
  | _, _ => none

/-- The legacy roles of an instance: an override contributes the name of its class. -/
def legacyRoles (h : Hierarchy) (c : ClassId) : Contribution :=
  match h.legacyMember? c with
  | some (cls, .overridden) => .ok (some (TextSet.ofList [cls.name]))
  | some (_, .inert) => .ok (some TextSet.empty)
  | none => .error .noSuchOperation

/-- The additional roles of an instance: an override contributes the marked name of its class. -/
def additionalRoles (h : Hierarchy) (c : ClassId) : Contribution :=
  match h.additionalMember? c with
  | some (cls, .overridden) => .ok (some (TextSet.ofList [cls.name ++ "+"]))
  | some (_, .inert) => .ok none
  | none => .error .noSuchOperation

/-- The hooks of an instance. -/
def hooks (h : Hierarchy) (c : ClassId) : Hooks :=
  { legacy := some fun _ _ => h.legacyRoles c
    additional := some fun _ => h.additionalRoles c }

end Hierarchy

end GrantedRoles
