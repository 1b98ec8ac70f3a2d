import GrantedRoles.Log.Logging

/-!
# What a logger can be asked for

A caller names what it wants of a logger and calls it with an event and fields. That may be a line
at some level, or something that the logger or its handle has under the name: `Member.ofName?` is
the table of names, which depends on whether logging is configured, and `Member.request` says what
a call comes to. Two names fix values for later lines and two drop such values again; a caller's
logger never has any.
-/

set_option autoImplicit false

namespace GrantedRoles.Log

/-- What a logger has under a name. A postponed line is prepared and never written; a part takes no
call with an event, and what a handle holds is there without its logger. -/
inductive Member where
  | note (level : Level)
  | noteAt
  | relay
  | postponed
  | postponedAt
  | fix
  | drop (strict : Bool)
  | setThreshold
  | attach
  | detach
  | child
  | caller
  | handOn
  | asksLevel
  | part
  | held (accepts : Bool)
  deriving DecidableEq, Repr

/-- What a call comes to. -/
inductive Effect where
  | nothing
  | line (level : Level) (event : Value) (fields : Assoc Value)
  | setThreshold (severity : Int)
  | attach (handler : Value)
  | detach (handler : Value)

namespace Member

/-! ## The names -/

/-- The names of lines beside those of `Level.ofMethod?` while logging is not configured. -/
def earlyNotes : List (String × Level) := [("msg", .info)]

/-- The names of postponed lines, however logging is configured. -/
def postponedNames : List String :=
  ["adebug", "ainfo", "awarning", "aerror", "acritical", "afatal", "aexception"]

/-- The names of postponed lines while logging is not configured. -/
def earlyPostponedNames : List String := ["awarn", "amsg"]

/-- The names of parts, however logging is configured. -/
def partNames : List String := ["get_effective_level", "_context", "_process_event"]

/-- Other members of a logger once logging is configured. -/
def configuredMembers : List (String × Member) :=
  [("setLevel", setThreshold), ("addHandler", attach), ("removeHandler", detach),
    ("getChild", child), ("findCaller", caller), ("handle", handOn), ("callHandlers", handOn),
    ("isEnabledFor", asksLevel), ("name", part), ("level", part), ("parent", part),
    ("propagate", part), ("handlers", part), ("disabled", part), ("hasHandlers", part),
    ("getEffectiveLevel", part), ("makeRecord", part), ("_dispatch_to_sync", part)]

/-- The names of what a handle holds and what takes no call. -/
def heldNames : List String :=
  ["_logger", "_wrapper_class", "_processors", "_context_class", "_cache_logger_on_first_use",
    "_initial_values", "_logger_factory_args", "__dict__", "__doc__", "__module__", "__str__",
    "__repr__", "__hash__", "__dir__", "__sizeof__", "__reduce__", "__getstate__"]

/-- The names of what a handle holds and what compares it with an event. -/
def comparisonNames : List String :=
  ["__class__", "__eq__", "__ne__", "__lt__", "__le__", "__gt__", "__ge__"]

/-- What the loggers of a process have under a name. -/
def ofName? (configured : Bool) (name : String) : Option Member :=
  match name with
  | "bind" => some fix
  | "new" => some fix
  | "unbind" => some (drop true)
  | "try_unbind" => some (drop false)
  | "log" => some noteAt
  | "alog" => some postponedAt
  | "_proxy_to_logger" => some relay
  | "is_enabled_for" => some asksLevel
  | _ =>
      if heldNames.contains name then some (held false)
      else if comparisonNames.contains name then some (held true)
      else if partNames.contains name then some part
      else if postponedNames.contains name then some postponed
      else if !configured && earlyPostponedNames.contains name then some postponed
      else
        match Level.ofMethod? name with
        | some level => some (note level)
        | none =>
            if configured then configuredMembers.lookup name
            else (earlyNotes.lookup name).map note

/-- Naming a member is a use of the logger, unless the handle itself has it, or it only fixes or
drops values and refuses the fields that it is called with. -/
def isUse (member : Option Member) (fields : Assoc Value) : Bool :=
  match member with
  | some fix => false
  | some (drop _) => fields.isEmpty
  | some (held _) => false
  | _ => true

/-! ## The calls -/

/-- Some field has one of these names. -/
def names (fields : Assoc Value) (taken : List String) : Bool :=
  fields.any fun entry => taken.contains entry.1

/-- The line of a call that gives its event among the fields, if it gives one. -/
def lineWithin (level : Level) (fields : Assoc Value) : Effect :=
  .line level ((fields.get? "event").getD .null) (fields.erase "event")

/-- The levels that a line can be relayed at, by name. -/
def relayLevels : List (String × Level) :=
  [("critical", .critical), ("exception", .error), ("error", .error), ("warn", .warning),
    ("warning", .warning), ("info", .info), ("debug", .debug)]

/-- The names under which a line is taken while logging is not configured, beside the levels. -/
def earlyRelayNames : List String := ["msg", "log", "err", "failure", "fatal"]

/-- A call at a level given by number. -/
def requestAt (configured : Bool) (event : Value) (fields : Assoc Value) :
    Except Failure Effect :=
  if names fields ["level", "self"] || !event.isHashable then .error .illTyped
  else if configured || (names fields ["event"] && (event.asInt?.any (0 ≤ ·))) then
    match event.asInt?.bind Level.ofSeverity? with
    | some level =>
        if names fields ["method_name"] then .error .illTyped else .ok (lineWithin level fields)
    | none => .error (.missingKey event)
  else if names fields ["event"] && event.asInt?.isSome then .ok .nothing
  else .error .illTyped

/-- A call that relays a line at a level given by name. -/
def requestRelay (configured : Bool) (event : Value) (fields : Assoc Value) :
    Except Failure Effect :=
  if names fields ["self", "method_name"] || !event.isHashable then .error .illTyped
  else
    match event.asText? with
    | none => .error (if configured then .missingKey event else .illTyped)
    | some name =>
        match relayLevels.lookup name with
        | some level => .ok (lineWithin level fields)
        | none =>
            if configured then
              if name = "notset" then .ok .nothing else .error (.missingKey event)
            else if earlyRelayNames.contains name then .ok (lineWithin .info fields)
            else .error .noSuchOperation

/-- What the call of a member that takes an event and no fields comes to. -/
def requestPlain (member : Member) (event : Value) : Except Failure Effect :=
  match member with
  | drop strict =>
      if !event.isHashable then .error .illTyped
      else if strict then .error (.missingKey event)
      else .ok .nothing
  | setThreshold => (ownThreshold event).map .setThreshold
  | attach => .ok (.attach event)
  | detach => .ok (.detach event)
  | child => if event.asText?.isSome then .ok .nothing else .error .illTyped
  | caller => .ok .nothing
  | handOn => .error .noSuchOperation
  | asksLevel =>
      match event with
      | .int _ | .bool _ | .real _ => .ok .nothing
      | _ => .error .illTyped
  | held true => .ok .nothing
  | _ => .error .illTyped

/-- What the call of a member comes to; or why it is refused: a field may not take the name of an
argument, and what is dropped must be there. -/
def request (configured : Bool) (member : Option Member) (event : Value) (fields : Assoc Value) :
    Except Failure Effect :=
  match member with
  | none => .error .noSuchOperation
  | some (note level) =>
      if names fields ["event", "self", "method_name"] then .error .illTyped
      else .ok (.line level event fields)
  | some noteAt => requestAt configured event fields
  | some relay => requestRelay configured event fields
  | some postponed =>
      if names fields ["event", "self"] then .error .illTyped else .ok .nothing
  | some postponedAt =>
      if names fields ["level", "self"] || !names fields ["event"] then .error .illTyped
      else .ok .nothing
  | some other => if fields.isEmpty then other.requestPlain event else .error .illTyped

end Member

end GrantedRoles.Log
