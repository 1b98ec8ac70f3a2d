import GrantedRoles.Proofs.Directory.Warnings
import GrantedRoles.Proofs.Populating

/-!
# What a resolution says

The calls of loggers that a resolution makes, in the order in which it makes them: the resolver's
own around the warnings of the gateway, all with the user bound in the context. A resolution that
cannot say that it begins says nothing else, nor does one that cannot say which groups it searches;
one whose groups are not searched says only that it begins.
-/

set_option autoImplicit false

namespace GrantedRoles

open Log

namespace GatewayChoice

/-- What a gateway answers to a query in a scene. -/
def answer (choice : GatewayChoice) (scene : Scene) (connection : Connection) (query : Query) :
    Except Failure TextSet :=
  match choice with
  | directory gateway => DirectoryGateway.searchOutcome scene gateway connection query
  | memory gateway => gateway.failure.elim (.ok (TextSet.ofList gateway.values)) .error

/-- What a gateway says about a query. One in memory says nothing. -/
def warnings (choice : GatewayChoice) (connection : Connection) (query : Query) : List Note :=
  match choice with
  | directory gateway => gateway.searchWarnings connection query
  | memory _ => []

theorem exists_search_conduct (choice : GatewayChoice) (scene : Scene) (connection : Connection)
    (query : Query) :
    ∃ calls, Conduct scene ((choice.toGateway connection).search query)
      (choice.answer scene connection query) calls
      (scene.remarks (choice.warnings connection query)) := by
  cases choice with
  | directory gateway => exact ⟨_, gateway.search_conduct connection query⟩
  | memory gateway =>
    change ∃ calls, Conduct scene (gateway.toGateway.search query)
      (gateway.failure.elim (.ok (TextSet.ofList gateway.values)) .error) calls []
    rw [MemoryGateway.toGateway_eq]
    exact ⟨_, (Conduct.call _).bind (Conduct.ofExcept _)⟩

end GatewayChoice

namespace Populator

variable {scene : Scene}

/-- What searching the groups of a user says, if they are searched: with which configuration, and if
that is taken what the gateway warns of, and what is found, if anything is. -/
def groupNotes (populator : Populator) (scene : Scene) (connection : Connection) (user : User) :
    List Note :=
  let query := Resolver.query populator.config user
  if populator.config.searchEnabled then
    Resolver.searching populator.config
      :: match scene.reply (Resolver.searching populator.config) with
        | .ok _ => populator.gateway.warnings connection query ++
            match populator.gateway.answer scene connection query with
            | .ok found =>
                [Resolver.noted .debug "group_search_roles"
                  [("roles", .list (found.toList.map .text))]]
            | .error _ => []
        | .error _ => []
  else []

/-- What a resolution says. -/
def resolveNotes (populator : Populator) (scene : Scene) (connection : Connection) (user : User) :
    List Note :=
  Resolver.beginning :: match scene.reply Resolver.beginning with
    | .ok _ => populator.groupNotes scene connection user
    | .error _ => []

theorem groupRoles_remarks (scene : Scene) (populator : Populator) (connection : Connection)
    (user : User) :
    Remarks scene ((populator.resolver connection).groupRoles user)
      (scene.remarks (populator.groupNotes scene connection user)) := by
  unfold Resolver.groupRoles groupNotes
  by_cases henabled : populator.config.searchEnabled = true
  · have hnote : Conduct scene (Resolver.note .debug "searching_group_roles" _)
        (scene.reply (Resolver.searching populator.config)) [] _ :=
      Resolver.note_conduct scene .debug _ _
    obtain ⟨calls, hsearch⟩ := populator.gateway.exists_search_conduct scene connection
      (Resolver.query populator.config user)
    have hconfig : (populator.resolver connection).config.searchEnabled = true := henabled
    simp only [hconfig, henabled, if_true]
    cases hreply : scene.reply (Resolver.searching populator.config) with
    | error refusal =>
      rw [hreply] at hnote
      exact Remarks.of_conduct (hnote.bind_error _)
    | ok _ =>
      rw [hreply] at hnote
      refine Remarks.bind_ok hnote ?_
      rw [List.map_append]
      cases hanswer : populator.gateway.answer scene connection
          (Resolver.query populator.config user) with
      | error failure =>
        rw [hanswer] at hsearch
        simp only [List.map_nil, List.append_nil]
        exact Remarks.of_conduct (hsearch.bind_error _)
      | ok found =>
        rw [hanswer] at hsearch
        -- What is found is said and made into roles.
        exact Remarks.bind_ok hsearch ((Remarks.of_conduct (Conduct.log _)).bind_silent fun _ =>
          (Remarks.of_conduct (Conduct.ofExcept _)).bind_silent fun _ =>
            Remarks.of_conduct (Conduct.pure _))
  · have hconfig : ¬ (populator.resolver connection).config.searchEnabled = true := henabled
    simp only [hconfig, henabled]
    exact Remarks.of_conduct (Conduct.pure _)

theorem resolve_remarks (scene : Scene) (populator : Populator) (connection : Connection)
    (user : User) :
    Remarks scene ((populator.resolver connection).resolve user)
      ((scene.withUser user.dn user.username).remarks
        (populator.resolveNotes (scene.withUser user.dn user.username) connection user)) := by
  unfold resolveNotes
  cases hbegins : (scene.withUser user.dn user.username).reply Resolver.beginning with
  | error refusal => exact Remarks.of_conduct (Resolver.resolve_refused_conduct _ user hbegins)
  | ok _ =>
    have hnote : Conduct (scene.withUser user.dn user.username)
        (Resolver.note .debug "resolving_authorities" [])
        ((scene.withUser user.dn user.username).reply Resolver.beginning) [] _ :=
      Resolver.note_conduct _ .debug _ _
    rw [hbegins] at hnote
    refine Remarks.withUser (Remarks.bind_ok hnote ?_)
    -- The hooks say nothing, nor does what is made of their roles.
    refine (groupRoles_remarks _ populator connection user).bind_silent fun found => ?_
    refine (Remarks.of_conduct (Resolver.legacyRoles_conduct user)).bind_silent fun legacy => ?_
    exact (Remarks.of_conduct (Resolver.additionalRoles_conduct user)).bind_silent fun _ =>
      Remarks.of_conduct (Conduct.ofExcept _)

end Populator

end GrantedRoles
