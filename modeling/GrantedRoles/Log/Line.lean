import GrantedRoles.Log.Context
import GrantedRoles.Log.Level
import GrantedRoles.Log.Name

/-!
# Log lines

A call of a logging method becomes a line of fields: the fields of the call go before the bound
context, the level and the name of the logger before both, and the service is filled in last. A line
holds only what its written form can hold, so values are brought into that form. A call whose line
cannot be written is refused, and so is one that cannot be shown where no line is written.
-/

set_option autoImplicit false

namespace GrantedRoles.Log

/-- A logged line, as its fields. -/
abbrev Line := Assoc Value

/-- The loggers of a process: those of the resolver and of the directory gateway, and those that
a caller made, under the handle by which the caller knows them. -/
inductive Logger where
  | resolver
  | gateway
  | handle (key : String)
  deriving DecidableEq, Repr

/-- A call of a logging method. An absent event is no field of its line. -/
structure Note where
  logger : Logger
  name : String
  level : Level
  event : Value
  fields : List (String × Value) := []

/-- The fields that a line does not show. -/
def hiddenFields : List String := ["exc_info", "timestamp"]

mutual

/-- A value in the form a line can hold: octets as their literal, tuples as lists, a scope as its
word. -/
def loggable : Value → Value
  | .octets os growable => .text (Value.octets os growable).literal
  | .tuple items => .list (loggables items)
  | .list items => .list (loggables items)
  | .dict entries => .dict (loggableEntries entries)
  | .scope s => .text s.word
  | other => other

/-- The items of a list in the form a line can hold. -/
def loggables : List Value → List Value
  | [] => []
  | item :: rest => loggable item :: loggables rest

/-- The entries of a dictionary in the form a line can hold. -/
def loggableEntries : List (String × Value) → List (String × Value)
  | [] => []
  | (key, value) :: rest => (key, loggable value) :: loggableEntries rest

end

/-- The fields of a call, its event among them. -/
def Note.own (note : Note) : Assoc Value :=
  if note.event.isPresent then Assoc.put "event" note.event (Assoc.ofPairs note.fields)
  else Assoc.ofPairs note.fields

/-- The fields of a call with those of the context; its own go before them. -/
def Note.merged (note : Note) (context : Context) : Assoc Value :=
  context.foldl (fun line entry => Assoc.putIfAbsent entry.1 entry.2 line) note.own

/-- The field that names the logger of a line instead of the call. -/
def recordField : String := "_record"

/-- The name that a value has: of all values, only a scope has one. -/
def ownName? : Value → Option String
  | .scope s => some s.name
  | _ => none

/-- The logger of a call can be named: by the call, or by what is given in its place. -/
def Note.isAttributable (note : Note) (context : Context) : Bool :=
  (Assoc.get? (note.merged context) recordField).all fun value =>
    !value.isPresent || (ownName? value).isSome

/-- The name of the logger that a line shows. -/
def Note.shownLogger (note : Note) (context : Context) : String :=
  ((Assoc.get? (note.merged context) recordField).bind ownName?).getD (shownName note.name)

/-- The line of a call: level and logger go before its fields and the context, and a service that
is already there stays. -/
def Note.line (note : Note) (context : Context) (service : Value) : Line :=
  let merged := note.merged context
  let named := Assoc.put "logger" (.text (note.shownLogger context))
    (Assoc.put "level" (.text note.level.word) merged)
  let full := Assoc.putIfAbsent "service" service named
  loggableEntries (full.filter fun entry => !hiddenFields.contains entry.1)

/-! ## Calls that cannot be shown -/

/-- The field that stands for an exception. -/
def exceptionField : String := "exc_info"

/-- What a tuple is refused for that stands for an exception: it would have to hold the exception's
kind, the exception and its trace, and no value is one of these. -/
def tupleFault? : Value → Option Failure
  | .tuple [_, _, _] => some .noSuchOperation
  | .tuple (_ :: _) => some .illTyped
  | _ => none

/-- Why the line of a call cannot be written, if it cannot: its logger has no name, a tuple stands
for an exception, or a value that it would show has no text. -/
def Note.lineFault? (note : Note) (context : Context) (service : Value) : Option Failure :=
  if !note.isAttributable context then some .noSuchOperation
  else
    match (Assoc.get? (note.merged context) exceptionField).bind tupleFault? with
    | some failure => some failure
    | none =>
        if (note.line context service).all (·.2.isWritable) then none else some .unwritable

/-- The fields that are not shown as they are without logging being configured. -/
def unprintedFields : List String :=
  [exceptionField, "exception", "stack", "stack_info", "level", "timestamp"]

/-- A field can be added to what is shown: it is absent or a text. -/
def isPlain (fields : Assoc Value) (name : String) : Bool :=
  match Assoc.get? fields name with
  | none => true
  | some value => !value.isPresent || value.asText?.isSome

/-- Why a call cannot be shown without logging being configured, if it cannot: a value has no text,
a tuple stands for an exception, or the stack, unless one is taken for it, or the exception is no
text. -/
def Note.printFault? (note : Note) (context : Context) : Option Failure :=
  let merged := note.merged context
  if !(merged.filter fun entry => !unprintedFields.contains entry.1).all (·.2.isWritable) then
    some .unwritable
  else if ((Assoc.get? merged exceptionField).bind tupleFault?).isSome then some .illTyped
  else if isPlain merged "exception" &&
      (((Assoc.get? merged "stack_info").any Value.isTruthy) || isPlain merged "stack") then none
  else some .illTyped

end GrantedRoles.Log
