import GrantedRoles.Log.Line

/-!
# Logging

The configuration of logging. The first configuration of a process sets the threshold of the root
and every successful one sets the service name; a logger keeps the service name that it found at
its first use. A caller can set the threshold of one logger, which holds for those under it too,
and can attach values to it in the place of handlers, none of which takes a line. Lines are written
only once logging is configured.
-/

set_option autoImplicit false

namespace GrantedRoles.Log

/-- The configuration of a process: the threshold of the root once it is set, the service name of
the last successful configuration, the service names that used loggers keep, and the thresholds
and attached handlers of loggers by name. -/
structure Logging where
  threshold : Option Int := none
  service : Option Value := none
  kept : List (Logger × Value) := []
  thresholds : Assoc Int := []
  attached : Assoc (List Value) := []

namespace Logging

/-- Configures logging. A level that is no text has no upper case. The threshold is set only once,
and even if its level is then refused it counts as set, to the initial one. -/
def configure (state : Logging) (service level : Value) : Except Failure Unit × Logging :=
  match level.asText?, state.threshold with
  | none, _ => (.error .noSuchOperation, state)
  | some _, some _ => (.ok (), { state with service := some service })
  | some level, none =>
      match Log.threshold level with
      | .ok severity => (.ok (), { state with threshold := some severity, service := some service })
      | .error failure => (.error failure, { state with threshold := some initialThreshold })

/-- A logger made anew has not been used. -/
def renew (state : Logging) (logger : Logger) : Logging :=
  { state with kept := state.kept.filter fun entry => entry.1 != logger }

/-- Logging is configured. -/
def isConfigured (state : Logging) : Bool := state.service.isSome

/-- The service name that a logger shows: the one that it keeps, or else the current one. -/
def serviceOf (state : Logging) (logger : Logger) : Option Value :=
  state.service.map fun current => (state.kept.lookup logger).getD current

/-- Uses a logger, which keeps the service name from now on if logging is configured. -/
def touch (state : Logging) (logger : Logger) : Logging :=
  match state.serviceOf logger with
  | none => state
  | some service =>
      if (state.kept.lookup logger).isSome then state
      else { state with kept := (logger, service) :: state.kept }

/-! ## Loggers by name -/

/-- The threshold of the root. -/
def rootThreshold (state : Logging) : Int := state.threshold.getD initialThreshold

/-- The loggers under the root whose settings hold for a name: its own and those above it. -/
def line (name : String) : List String :=
  if shownName name = rootName then [] else name :: enclosing name

/-- The threshold for the lines of a name: the first that is not zero, from its own upwards. -/
def thresholdOf (state : Logging) (name : String) : Int :=
  (((line name).filterMap state.thresholds.get?).find? (· != 0)).getD state.rootThreshold

/-- Sets the threshold of one logger. -/
def setThreshold (state : Logging) (name : String) (severity : Int) : Logging :=
  if shownName name = rootName then { state with threshold := some severity }
  else { state with thresholds := state.thresholds.put name severity }

/-- The handlers that were attached to one logger. -/
def attachedTo (state : Logging) (name : String) : List Value :=
  (state.attached.get? (shownName name)).getD []

/-- Attaches a handler to one logger, unless it is attached already. -/
def attach (state : Logging) (name : String) (handler : Value) : Logging :=
  let present := state.attachedTo name
  if present.any handler.same then state
  else { state with attached := state.attached.put (shownName name) (present ++ [handler]) }

/-- Detaches a handler from one logger. -/
def detach (state : Logging) (name : String) (handler : Value) : Logging :=
  let left := (state.attachedTo name).eraseP handler.same
  { state with attached := state.attached.put (shownName name) left }

/-- No handler was attached to a logger between a name and the root, so lines reach the root. -/
def reachesRoot (state : Logging) (name : String) : Bool :=
  (line name).all fun above => (state.attachedTo above).isEmpty

/-- No handler was attached to the root, after its own. -/
def passesRoot (state : Logging) : Bool := (state.attachedTo rootName).isEmpty

/-! ## Logging a call -/

/-- The answer to a call that has a fault, or none. -/
def answer (fault : Option Failure) : Except Failure Unit := fault.elim (.ok ()) .error

/-- The line of a call, if logging is configured and the level reaches the threshold, and whether
it was taken. A call that cannot be shown is refused, and an attached handler refuses the line, the
root's only after it is written. -/
def outcome (state : Logging) (context : Context) (note : Note) :
    Except Failure Unit × Option Line :=
  match state.serviceOf note.logger with
  | none => (answer (note.printFault? context), none)
  | some service =>
      if note.level.severity < state.thresholdOf note.name then (.ok (), none)
      else
        match note.lineFault? context service with
        | some failure => (.error failure, none)
        | none =>
            if !state.reachesRoot note.name then (.error .noSuchOperation, none)
            else
              (if state.passesRoot then .ok () else .error .noSuchOperation,
                some (note.line context service))

/-- Logs a call, which uses the logger. -/
def log (state : Logging) (context : Context) (note : Note) :
    Except Failure Unit × Option Line × Logging :=
  let (taken, written) := state.outcome context note
  (taken, written, state.touch note.logger)

end Logging

end GrantedRoles.Log
