import GrantedRoles.Assoc
import GrantedRoles.Failure
import GrantedRoles.TextSet
import GrantedRoles.Text.Casing

/-!
# Directory connections

What a connection to the directory does: which of its three calls fail, which result it reports
for a search, and which entries it returns. `collect` gathers the values of one attribute from the
entries.
-/

set_option autoImplicit false

namespace GrantedRoles

open Text

/-- A message that answers a search: its type, and its attributes if it is an entry. -/
structure Entry where
  kind : Value := .null
  attributes : Assoc Value := []

/-- A message as the directory client hands it over: it may have no attributes, and null may stand
in their place. -/
structure Message where
  kind : Value := .null
  attributes : Option (Option (Assoc Value)) := none

/-- What is read of a message. One without attributes, or with null in their place, has none. -/
def Message.entry (message : Message) : Entry where
  kind := message.kind
  attributes := message.attributes.join.getD []

/-- What is read of the messages of a reply, if there is one. -/
def entriesOf (reply : Option (List Message)) : List Entry :=
  (reply.getD []).map Message.entry

/-- The behaviour of one connection. -/
structure Connection where
  connectFailure : Option Failure := none
  searchFailure : Option Failure := none
  unbindFailure : Option Failure := none
  result : Value := .dict [("result", .int 0), ("description", .text "success")]
  entries : List Entry := []

/-- What the reported result says about a search. -/
inductive Verdict where
  | success
  | unknown
  | refused (code description : Value)

namespace Connection

/-- The key of the result code, and of its description. -/
def codeKey : String := "result"

/-- The key of a result's description. -/
def descriptionKey : String := "description"

/-- A text has another one in it. -/
def holds (text part : List Char) : Bool :=
  match text with
  | [] => part.isEmpty
  | _ :: rest => part.isPrefixOf text || holds rest part

/-- Judges a result: without a code the outcome is unknown, and any code but zero refuses. What
holds the word for the code and is no dictionary cannot be asked for it. -/
def verdict (result : Value) : Except Failure Verdict :=
  if !result.isTruthy then .ok .unknown
  else
    match result with
    | .dict fields =>
        match Assoc.get? fields codeKey with
        | none => .ok .unknown
        | some code =>
            if code.isZero then .ok .success
            else .ok (.refused code ((Assoc.get? fields descriptionKey).getD .null))
    | .list items => ofItems items
    | .tuple items => ofItems items
    | other =>
        match other.asText? with
        | some text => if holds text.toList codeKey.toList then .error .illTyped else .ok .unknown
        | none => .error .illTyped
where
  /-- A sequence has no code. -/
  ofItems (items : List Value) : Except Failure Verdict :=
    if items.any (·.same (.text codeKey)) then .error .illTyped else .ok .unknown

end Connection

/-! ## Collecting values -/

/-- A single value as text, if it has one: octets are decoded, anything else is written out. -/
def valueText : Value → String
  | .octets os _ => ofServer os
  | other => other.display

/-- The texts of an attribute: one for each value of a list, one for a single value, none for an
absent one. -/
def attributeTexts : Value → List String
  | .list items => items.map valueText
  | .tuple items => items.map valueText
  | .null => []
  | other => [valueText other]

namespace Entry

/-- A found entry, rather than a referral or another message. -/
def isFound (entry : Entry) : Bool := entry.kind.same (.text "searchResEntry")

/-- The texts of the attributes with a name, which is compared without regard to case. -/
def texts (entry : Entry) (name : String) : List String :=
  if entry.isFound then
    (entry.attributes.filter fun field => sameLower field.1 name).flatMap fun field =>
      attributeTexts field.2
  else []

/-- Every value of the attributes with a name has a text. -/
def isReadable (entry : Entry) (name : String) : Bool :=
  !entry.isFound || entry.attributes.all fun field =>
    !sameLower field.1 name || field.2.isWritable

end Entry

/-- The distinct values of one attribute over all entries, all of which must have a text. A name
that is no text names no attribute, and what has no lower case cannot be looked for. -/
def collect (entries : List Entry) (wanted : Value) : Except Failure TextSet :=
  match wanted.asText? with
  | some name =>
      if entries.all (·.isReadable name) then
        .ok (TextSet.ofList (entries.flatMap fun entry => entry.texts name))
      else .error .unwritable
  | none =>
      match wanted with
      | .octets _ _ => .ok TextSet.empty
      | _ => .error .noSuchOperation

end GrantedRoles
