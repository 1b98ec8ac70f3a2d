import GrantedRoles.Proofs.Directory.Connection

/-!
# Holding a connection

What a process holds of the directory, followed through the calls that it makes: a connection that
is obtained is searched at most once and released once, and nobody else is called meanwhile. The
calls of a visit are such calls, and nothing is held after them.
-/

set_option autoImplicit false

namespace GrantedRoles

/-- A call opens a connection. -/
def Call.isOpening : Call → Bool
  | .connect => true
  | .connection _ _ _ _ _ => true
  | _ => false

/-- A call is made on an open connection. -/
def Call.needsConnection : Call → Bool
  | .search _ _ _ _ => true
  | .unbind => true
  | _ => false

/-- A call has nothing to do with a connection. -/
def Call.IsApart (c : Call) : Prop := c.isOpening = false ∧ c.needsConnection = false

/-- What a process holds of the directory: nothing, a connection that it obtained, or one that it
has searched. -/
inductive Hold where
  | nothing
  | obtained
  | searched
  deriving DecidableEq, Repr

namespace Hold

/-- What is held after a call, if connections behave like this one and the call is in its place:
connections are opened one at a time, searched once at most and released; no other call is made
while one is open. -/
def after? (connection : Connection) : Hold → Call → Option Hold
  | nothing, c =>
      if c.isOpening then some (if connection.connectFailure.isNone then obtained else nothing)
      else if c.needsConnection then none
      else some nothing
  | obtained, .search _ _ _ _ => some searched
  | obtained, .unbind => some nothing
  | searched, .unbind => some nothing
  | _, _ => none

/-- What is held after several calls, if all of them are in their places. -/
def afterAll? (connection : Connection) (hold : Hold) (calls : List Call) : Option Hold :=
  calls.foldlM (after? connection) hold

variable {connection : Connection} {calls calls' : List Call}

theorem afterAll?_append {hold between : Hold} (h : hold.afterAll? connection calls = some between) :
    hold.afterAll? connection (calls ++ calls') = between.afterAll? connection calls' := by
  unfold afterAll? at h ⊢
  rw [List.foldlM_append, h]
  rfl

/-- Calls apart from any connection leave nothing held. -/
theorem afterAll?_of_isApart (h : ∀ c ∈ calls, c.IsApart) :
    nothing.afterAll? connection calls = some nothing := by
  induction calls with
  | nil => rfl
  | cons c rest ih =>
    rw [List.forall_mem_cons] at h
    obtain ⟨⟨hopening, hneeds⟩, hrest⟩ := h
    have hfirst : nothing.after? connection c = some nothing := by
      simp [after?, hopening, hneeds]
    unfold afterAll? at ih ⊢
    rw [List.foldlM_cons, hfirst]
    exact ih hrest

/-- The calls of one connection are in their places, and it is not held afterwards. -/
theorem afterAll?_of_visit {opening : Call} (hopening : opening.isOpening = true)
    (h : DirectoryGateway.Visit opening connection calls) :
    nothing.afterAll? connection calls = some nothing := by
  have hopened : nothing.after? connection opening
      = some (if connection.connectFailure.isNone then obtained else nothing) := by
    simp [after?, hopening]
  unfold afterAll?
  cases h with
  | refused hconnect =>
    cases hfailure : connection.connectFailure with
    | none => exact absurd hfailure hconnect
    | some failure => simp [hopened, hfailure]
  | idle hconnect => simp [after?, hopening, hconnect]
  | searched hconnect => simp [after?, hopening, hconnect]

end Hold

end GrantedRoles
