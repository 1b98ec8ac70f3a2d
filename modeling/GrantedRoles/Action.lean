import GrantedRoles.Directory.Query
import GrantedRoles.Log.Logging
import GrantedRoles.TextSet

/-!
# Actions

An action runs in an ambient of logging configuration and bound context, and leaves a record of
what it did there: the calls it made on its collaborators and the lines it logged, also when it
fails. Cleaning up (`Action.ensuring`) happens on every way out; a failure of the cleanup itself
replaces the outcome.
-/

set_option autoImplicit false

namespace GrantedRoles

open Log

/-- A call on a collaborator. A connection to a directory is opened as a user, and it says whether
to bind at once and whether only to read. -/
inductive Call where
  | connect
  | search (base : Value) (filter : String) (scope : Scope) (wanted : Value)
  | unbind
  | gateway (query : Query)
  | legacyHook (dn : String) (attributes : List (String × List String))
  | additionalHook (dn username : String)
  | server (url : Value)
  | connection (url user password : Value) (autoBind readOnly : Bool)

/-- The surroundings of an action, and the record that actions leave in them. -/
structure Ambient where
  context : Context := []
  logging : Logging := {}
  calls : List Call := []
  lines : List Line := []

/-- A computation that may fail, call collaborators and log. -/
def Action (α : Type) := Ambient → Except Failure α × Ambient

namespace Action

variable {α β : Type}

/-- Runs an action. -/
def run (action : Action α) (ambient : Ambient) : Except Failure α × Ambient := action ambient

/-- Does nothing and returns a value. -/
protected def pure (a : α) : Action α := fun ambient => (.ok a, ambient)

/-- Runs one action and then the action that its value gives; a failure ends both. -/
protected def bind (action : Action α) (next : α → Action β) : Action β := fun ambient =>
  match action ambient with
  | (.ok a, after) => next a after
  | (.error failure, after) => (.error failure, after)

instance : Monad Action where
  pure := Action.pure
  bind := Action.bind

/-- A second action starts in what the first one left. -/
theorem run_bind_of_ok {action : Action α} {ambient after : Ambient} {a : α}
    (h : action.run ambient = (.ok a, after)) (next : α → Action β) :
    (action >>= next).run ambient = (next a).run after := by
  change Action.bind action next ambient = _
  change action ambient = _ at h
  rw [Action.bind, h]
  rfl

/-- A failed action is the last one. -/
theorem run_bind_of_error {action : Action α} {ambient after : Ambient} {failure : Failure}
    (h : action.run ambient = (.error failure, after)) (next : α → Action β) :
    (action >>= next).run ambient = (.error failure, after) := by
  change Action.bind action next ambient = _
  change action ambient = _ at h
  rw [Action.bind, h]

/-- Fails. -/
def fail (failure : Failure) : Action α := fun ambient => (.error failure, ambient)

/-- The outcome of a computation without effects. -/
def ofExcept (outcome : Except Failure α) : Action α := fun ambient => (outcome, ambient)

/-- Records a call on a collaborator. -/
def call (c : Call) : Action Unit := fun ambient =>
  (.ok (), { ambient with calls := ambient.calls ++ [c] })

/-- Logs a call. -/
def log (note : Note) : Action Unit := fun ambient =>
  let (outcome, line, logging) := ambient.logging.log ambient.context note
  (outcome, { ambient with logging, lines := ambient.lines ++ line.toList })

/-- Changes the configuration of logging without logging. -/
def adjust (change : Logging → Logging) : Action Unit := fun ambient =>
  (.ok (), { ambient with logging := change ambient.logging })

/-- Uses a logger without logging. -/
def touch (logger : Logger) : Action Unit := adjust (·.touch logger)

/-- Configures logging. -/
def configureLogging (service level : Value) : Action Unit := fun ambient =>
  let (outcome, logging) := ambient.logging.configure service level
  (outcome, { ambient with logging })

/-- Runs a handler if the action fails with a failure of its kind. -/
def recover (action : Action α) (handler : Failure → Option (Action α)) : Action α := fun ambient =>
  match action ambient with
  | (.ok a, after) => (.ok a, after)
  | (.error failure, after) =>
      match handler failure with
      | some handled => handled after
      | none => (.error failure, after)

/-- Runs a cleanup after the action, however it ends. -/
def ensuring (action : Action α) (cleanup : Action Unit) : Action α := fun ambient =>
  let (outcome, after) := action ambient
  match cleanup after with
  | (.ok (), done) => (outcome, done)
  | (.error failure, done) => (.error failure, done)

/-- Runs an action with a user bound in the context, and unbinds the user however it ends. -/
def withUser (dn username : String) (action : Action α) : Action α := fun ambient =>
  let (context, frame) := ambient.context.enter (.text dn) (.text username)
  let (outcome, after) := action { ambient with context }
  (outcome, { after with context := after.context.leave frame })

end Action

end GrantedRoles
