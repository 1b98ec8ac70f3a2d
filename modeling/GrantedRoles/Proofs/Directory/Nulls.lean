import GrantedRoles.Proofs.Directory.Collecting
import GrantedRoles.Proofs.Grants

/-!
# What nulls come to

A null in place of attributes and a null as a single value are not read. A null inside a list or
tuple is: it is written out like any other value. So a reply gives the same with its nulls deleted
exactly if no such null stands under the attribute, or the text of null is collected anyway, and the
same holds of the roles that a resolution makes of the reply (`withoutNulls_iff`).
-/

set_option autoImplicit false

namespace GrantedRoles

open Log Text

/-! ## Deleting nulls -/

/-- What is left of an attribute's value if nulls are deleted: nothing of null itself. -/
def Value.withoutNulls? : Value → Option Value
  | .null => none
  | .list items => some (.list (items.filter Value.isPresent))
  | .tuple items => some (.tuple (items.filter Value.isPresent))
  | other => some other

/-- A message of which nulls are deleted: one in place of its attributes, those that are an
attribute's value, and those in a list or tuple. -/
def Message.withoutNulls (message : Message) : Message where
  kind := message.kind
  attributes := message.attributes.join.map fun fields =>
    some (fields.filterMap fun field => field.2.withoutNulls?.map fun value => (field.1, value))

/-- The text of null. -/
def nullText : String := "None"

theorem valueText_null : valueText .null = nullText := rfl

/-- Null stands in a list or tuple that a found entry holds under the name. -/
def ListsNull (messages : List Message) (name : String) : Prop :=
  ∃ message ∈ messages, message.entry.kind.asText? = some "searchResEntry" ∧
    ∃ field ∈ message.entry.attributes, lower field.1 = lower name ∧
      ∃ items, (field.2 = .list items ∨ field.2 = .tuple items) ∧ .null ∈ items

theorem Value.among_null_iff {held : Value} :
    Value.Among .null held ↔
      ∃ items, (held = .list items ∨ held = .tuple items) ∧ .null ∈ items := by
  constructor
  · intro h
    cases h with
    | listed h => exact ⟨_, Or.inl rfl, h⟩
    | tupled h => exact ⟨_, Or.inr rfl, h⟩
    | single hpresent => cases hpresent
  · rintro ⟨items, rfl | rfl, h⟩
    · exact .listed h
    · exact .tupled h

theorem listsNull_iff_gives {messages : List Message} {name : String} :
    ListsNull messages name ↔ ∃ message ∈ messages, message.entry.Gives name .null := by
  simp only [ListsNull, Entry.Gives, Value.among_null_iff]

/-- Among the values that are left are those that were there, but for null. -/
theorem Value.among_withoutNulls_iff {v held : Value} :
    (∃ kept, held.withoutNulls? = some kept ∧ Value.Among v kept) ↔
      Value.Among v held ∧ v ≠ .null := by
  constructor
  · rintro ⟨kept, hkept, hamong⟩
    cases held with
    | null => cases hkept
    | list items =>
      cases hkept
      cases hamong with
      | listed h =>
        obtain ⟨hv, hpresent⟩ := List.mem_filter.1 h
        exact ⟨.listed hv, Value.isPresent_iff.1 hpresent⟩
      | single _ hlist => exact absurd rfl (hlist _)
    | tuple items =>
      cases hkept
      cases hamong with
      | tupled h =>
        obtain ⟨hv, hpresent⟩ := List.mem_filter.1 h
        exact ⟨.tupled hv, Value.isPresent_iff.1 hpresent⟩
      | single _ _ htuple => exact absurd rfl (htuple _)
    | _ =>
      cases hkept
      cases hamong
      exact ⟨.single rfl (by simp) (by simp), by simp⟩
  · rintro ⟨hamong, hpresent⟩
    cases hamong with
    | listed h =>
      exact ⟨_, rfl, .listed (List.mem_filter.2 ⟨h, Value.isPresent_iff.2 hpresent⟩)⟩
    | tupled h =>
      exact ⟨_, rfl, .tupled (List.mem_filter.2 ⟨h, Value.isPresent_iff.2 hpresent⟩)⟩
    | single _ hlist htuple =>
      refine ⟨v, ?_, .single (Value.isPresent_iff.2 hpresent) hlist htuple⟩
      cases v with
      | null => exact absurd rfl hpresent
      | list items => exact absurd rfl (hlist items)
      | tuple items => exact absurd rfl (htuple items)
      | _ => rfl

/-- Without its nulls a message gives what it gave, but for null. -/
theorem Message.gives_withoutNulls_iff {message : Message} {name : String} {v : Value} :
    message.withoutNulls.entry.Gives name v ↔ message.entry.Gives name v ∧ v ≠ .null := by
  have hattributes : message.withoutNulls.entry.attributes
      = message.entry.attributes.filterMap fun field =>
          field.2.withoutNulls?.map fun value => (field.1, value) := by
    simp only [entry, withoutNulls]
    cases message.attributes.join <;> rfl
  unfold Entry.Gives
  rw [hattributes, and_assoc]
  refine and_congr_right fun _ => ?_
  simp only [List.mem_filterMap, Option.map_eq_some_iff]
  constructor
  · rintro ⟨_, ⟨field, hfield, kept, hkept, rfl⟩, hname, hamong⟩
    obtain ⟨hheld, hpresent⟩ := Value.among_withoutNulls_iff.1 ⟨kept, hkept, hamong⟩
    exact ⟨⟨field, hfield, hname, hheld⟩, hpresent⟩
  · rintro ⟨⟨field, hfield, hname, hheld⟩, hpresent⟩
    obtain ⟨kept, hkept, hamong⟩ := Value.among_withoutNulls_iff.2 ⟨hheld, hpresent⟩
    exact ⟨(field.1, kept), ⟨field, hfield, kept, hkept, rfl⟩, hname, hamong⟩

/-! ## Sets with one text more -/

/-- A set has the texts of another one, and one text more if a condition holds. -/
def TextSet.AddsIf (p : Prop) (s : String) (set other : TextSet) : Prop :=
  ∀ t, t ∈ set ↔ t ∈ other ∨ (p ∧ t = s)

namespace TextSet.AddsIf

variable {p : Prop} {s : String} {set other : TextSet}

theorem eq_iff (h : AddsIf p s set other) : set = other ↔ (p → s ∈ other) := by
  constructor
  · rintro rfl hp
    exact (h s).2 (Or.inr ⟨hp, rfl⟩)
  · intro hadded
    apply TextSet.ext
    intro t
    rw [h t]
    constructor
    · rintro (ht | ⟨hp, rfl⟩)
      · exact ht
      · exact hadded hp
    · exact Or.inl

/-- What joins both sets does not matter. -/
theorem union (h : AddsIf p s set other) (more : TextSet) :
    AddsIf p s (set.union more) (other.union more) := by
  intro t
  rw [mem_union, mem_union, h t, or_right_comm]

/-- The roles of the texts differ as the texts do. -/
theorem roles (h : AddsIf p s set other) (texts : GroupTexts) :
    AddsIf p (texts.role s) (texts.roles set) (texts.roles other) := by
  intro r
  rw [GroupTexts.mem_roles, GroupTexts.mem_roles]
  simp only [h _, or_and_right, exists_or]
  refine or_congr_right ?_
  constructor
  · rintro ⟨raw, ⟨hp, rfl⟩, hrole⟩
    exact ⟨hp, hrole.symm⟩
  · rintro ⟨hp, rfl⟩
    exact ⟨s, ⟨hp, rfl⟩, rfl⟩

theorem withDefault (h : AddsIf p s set other) (texts : GroupTexts) :
    AddsIf p s (texts.withDefault set) (texts.withDefault other) := by
  intro r
  rw [GroupTexts.mem_withDefault, GroupTexts.mem_withDefault, h r, or_right_comm]

end TextSet.AddsIf

theorem mem_collected_withoutNulls {messages : List Message} {name s : String} :
    s ∈ collected (messages.map Message.withoutNulls) name ↔
      ∃ message ∈ messages, ∃ v, (message.entry.Gives name v ∧ v ≠ .null) ∧ valueText v = s := by
  simp only [mem_collected, Entry.mem_texts, List.mem_map]
  constructor
  · rintro ⟨_, ⟨message, hmessage, rfl⟩, v, hgives, hs⟩
    exact ⟨message, hmessage, v, Message.gives_withoutNulls_iff.1 hgives, hs⟩
  · rintro ⟨message, hmessage, v, hgives, hs⟩
    exact ⟨_, ⟨message, hmessage, rfl⟩, v, Message.gives_withoutNulls_iff.2 hgives, hs⟩

/-- A reply gives what it gives without its nulls, and the text of null if a null is listed. -/
theorem collected_addsIf (messages : List Message) (name : String) :
    TextSet.AddsIf (ListsNull messages name) nullText (collected messages name)
      (collected (messages.map Message.withoutNulls) name) := by
  intro s
  rw [mem_collected_withoutNulls, listsNull_iff_gives, mem_collected]
  simp only [Entry.mem_texts]
  constructor
  · rintro ⟨message, hmessage, v, hgives, rfl⟩
    -- A null that an entry gives is a listed one; what is not null is given without the nulls too.
    by_cases hnull : v = .null
    · subst hnull
      exact Or.inr ⟨⟨message, hmessage, hgives⟩, valueText_null⟩
    · exact Or.inl ⟨message, hmessage, v, ⟨hgives, hnull⟩, rfl⟩
  · rintro (⟨message, hmessage, v, ⟨hgives, -⟩, hs⟩ | ⟨⟨message, hmessage, hgives⟩, rfl⟩)
    · exact ⟨message, hmessage, v, hgives, hs⟩
    · exact ⟨message, hmessage, .null, hgives, valueText_null⟩

/-! ## Outcomes that differ in their results -/

/-- Two outcomes with the same failure, or with results that are related. -/
inductive Related {α β : Type} (r : α → β → Prop) : Except Failure α → Except Failure β → Prop
  | failed (failure : Failure) : Related r (.error failure) (.error failure)
  | ended {a : α} {b : β} (h : r a b) : Related r (.ok a) (.ok b)

namespace Related

variable {α β γ δ : Type} {r : α → β → Prop} {outcome : Except Failure α} {other : Except Failure β}

theorem bind {r' : γ → δ → Prop} {f : α → Except Failure γ} {g : β → Except Failure δ}
    (h : Related r outcome other) (hnext : ∀ a b, r a b → Related r' (f a) (g b)) :
    Related r' (outcome.bind f) (other.bind g) := by
  cases h with
  | failed failure => exact .failed failure
  | ended h => exact hnext _ _ h

theorem map {r' : γ → δ → Prop} {f : α → γ} {g : β → δ} (h : Related r outcome other)
    (hnext : ∀ a b, r a b → r' (f a) (g b)) : Related r' (outcome.map f) (other.map g) := by
  cases h with
  | failed failure => exact .failed failure
  | ended h => exact .ended (hnext _ _ h)

theorem elim (h : Related r outcome other) :
    (∃ failure, outcome = .error failure ∧ other = .error failure) ∨
      ∃ a b, outcome = .ok a ∧ other = .ok b ∧ r a b := by
  cases h with
  | failed failure => exact Or.inl ⟨failure, rfl, rfl⟩
  | ended h => exact Or.inr ⟨_, _, rfl, rfl, h⟩

/-- The same outcome before two related ones leaves them related. -/
theorem after {before : Except Failure γ} {f : γ → Except Failure α} {g : γ → Except Failure β}
    (h : ∀ c, Related r (f c) (g c)) : Related r (before.bind f) (before.bind g) := by
  cases before with
  | error failure => exact .failed failure
  | ok c => exact h c

end Related

/-- Nulls have a text, so a reply can be read under a name exactly if it can without its nulls. -/
theorem readable_withoutNulls_iff {messages : List Message} {name : String} :
    Readable ((messages.map Message.withoutNulls).map Message.entry) name ↔
      Readable (messages.map Message.entry) name := by
  simp only [Readable, List.forall_mem_map, Message.gives_withoutNulls_iff]
  constructor
  · intro h message hmessage v hgives
    by_cases hnull : v = .null
    · rw [hnull]
      rfl
    · exact h message hmessage v ⟨hgives, hnull⟩
  · intro h message hmessage v hgives
    exact h message hmessage v hgives.1

theorem collect_of_readable {messages : List Message} {name : String}
    (h : Readable (messages.map Message.entry) name) :
    collect (messages.map Message.entry) (.text name) = .ok (collected messages name) := by
  have hreadable := readable_iff.1 h
  rw [List.all_map] at hreadable
  rw [collect_entries]
  exact if_pos hreadable

/-- Collecting with the nulls and without them fails alike or ends as `collected_addsIf` says. -/
theorem collect_related (messages : List Message) (name : String) :
    Related (TextSet.AddsIf (ListsNull messages name) nullText)
      (collect (messages.map Message.entry) (.text name))
      (collect ((messages.map Message.withoutNulls).map Message.entry) (.text name)) := by
  by_cases hreadable : Readable (messages.map Message.entry) name
  · rw [collect_of_readable hreadable, collect_of_readable (readable_withoutNulls_iff.2 hreadable)]
    exact .ended (collected_addsIf messages name)
  · rw [collect_of_not_readable hreadable,
      collect_of_not_readable (mt readable_withoutNulls_iff.1 hreadable)]
    exact .failed _

namespace DirectoryGateway

variable {p : Prop} {s : String} {entries others : List Entry} {query : Query}

/-- The same warnings settle related outcomes in the same way. -/
theorem settle_related {α β : Type} {r : α → β → Prop} (scene : Scene) (warnings : List Note)
    {outcome : Except Failure α} {other : Except Failure β} (h : Related r outcome other) :
    Related r (settle scene warnings outcome) (settle scene warnings other) := by
  induction warnings generalizing outcome other with
  | nil => exact h
  | cons note rest ih => exact ih (Related.after fun _ => h)

/-- Connections that return other entries settle their findings in the same way. -/
theorem settled_related (scene : Scene) (connection : Connection) (base : Value) (filter : String)
    (h : Related (TextSet.AddsIf p s) (collect entries query.wanted)
      (collect others query.wanted)) :
    Related (TextSet.AddsIf p s)
      ((finding { connection with entries := entries } base filter query).settled scene)
      ((finding { connection with entries := others } base filter query).settled scene) := by
  unfold finding
  cases scopeOf query.scope with
  | error failure => exact .failed failure
  | ok scope =>
    cases connection.searchFailure with
    | some failure =>
      cases failure with
      | directory fault => exact settle_related scene _ (.failed _)
      | _ => exact .failed _
    | none =>
      -- Only an accepted search comes to look at the entries.
      simp only [answered]
      cases Connection.verdict connection.result with
      | error failure => exact .failed failure
      | ok verdict =>
        cases verdict with
        | success => exact h
        | _ => exact settle_related scene _ (.failed _)

theorem searchOutcome_related (scene : Scene) (gateway : DirectoryGateway)
    (connection : Connection)
    (h : Related (TextSet.AddsIf p s) (collect entries query.wanted)
      (collect others query.wanted)) :
    Related (TextSet.AddsIf p s)
      (searchOutcome scene gateway { connection with entries := entries } query)
      (searchOutcome scene gateway { connection with entries := others } query) :=
  Related.after fun (filter, base) => Related.after fun _ => Related.after fun _ =>
    settled_related scene connection base filter h

end DirectoryGateway

/-! ## Resolutions -/

/-- How a resolution over a connection ends. -/
def DirectoryGateway.resolution (gateway : DirectoryGateway) (connection : Connection)
    (texts : GroupTexts) (hooks : Hooks) (user : User) (ambient : Ambient) :
    Except Failure RoleSet :=
  ((Resolver.resolve ⟨gateway.withConnection connection, texts.config, hooks⟩ user).run ambient).1

/-- A resolution ends as its consultations do, if the resolver's logger takes calls with the user
bound. -/
theorem DirectoryGateway.resolution_eq (gateway : DirectoryGateway) (connection : Connection)
    (texts : GroupTexts) (hooks : Hooks) (user : User) {ambient : Ambient}
    (htakes : (ambient.scene.withUser user.dn user.username).Takes .resolver Resolver.loggerName
      .debug) :
    gateway.resolution connection texts hooks user ambient
      = (Consultation.gather (texts.consultation
            (gateway.consulted (ambient.scene.withUser user.dn user.username) connection) user)
          (hooks.legacyConsultation user) (hooks.additionalConsultation user)).map fun roles =>
            { texts := texts.withDefault roles } := by
  have hconfig : (Resolver.mk (gateway.withConnection connection) texts.config hooks).config
      = texts.config := rfl
  obtain ⟨lines, hcourse⟩ := Resolver.resolve_course
    (gateway.consulted (ambient.scene.withUser user.dn user.username) connection) hconfig htakes
    fun base _ => gateway.consults_consulted _ connection (texts.query base user)
  obtain ⟨after, hrun, -⟩ := hcourse.exists_run
  rw [resolution, hrun]

/-- The group search is all that reads a reply. -/
theorem DirectoryGateway.consultation_related (messages : List Message) (scene : Scene)
    (gateway : DirectoryGateway) (connection : Connection) (texts : GroupTexts) (user : User) :
    Related (TextSet.AddsIf (texts.base ≠ none ∧ ListsNull messages texts.roleAttribute)
        (texts.role nullText))
      (texts.consultation (gateway.consulted scene
        { connection with entries := messages.map Message.entry }) user).answer
      (texts.consultation (gateway.consulted scene { connection with
        entries := (messages.map Message.withoutNulls).map Message.entry }) user).answer := by
  unfold GroupTexts.consultation
  cases hbase : texts.base with
  | none => exact .ended (by simp [TextSet.AddsIf])
  | some base =>
    have hcollected : Related (TextSet.AddsIf (ListsNull messages texts.roleAttribute) nullText)
        (collect (messages.map Message.entry) (.text texts.roleAttribute))
        (collect ((messages.map Message.withoutNulls).map Message.entry)
          (.text texts.roleAttribute)) :=
      collect_related messages texts.roleAttribute
    simp only [ne_eq, reduceCtorEq, not_false_eq_true, true_and]
    exact (searchOutcome_related scene gateway connection hcollected).map fun _ _ h => h.roles texts

theorem DirectoryGateway.resolution_related (messages : List Message) (gateway : DirectoryGateway)
    (connection : Connection) (texts : GroupTexts) (hooks : Hooks) (user : User)
    (ambient : Ambient) :
    Related (fun roles others : RoleSet => ∃ set other : TextSet,
        roles = { texts := set } ∧ others = { texts := other } ∧
          set.AddsIf (texts.base ≠ none ∧ ListsNull messages texts.roleAttribute)
            (texts.role nullText) other)
      (gateway.resolution { connection with entries := messages.map Message.entry } texts hooks user
        ambient)
      (gateway.resolution
        { connection with entries := (messages.map Message.withoutNulls).map Message.entry } texts
        hooks user ambient) := by
  cases hbegins : (ambient.scene.withUser user.dn user.username).reply Resolver.beginning with
  | ok _ =>
    have htakes := (Resolver.takes_iff_reply_noted _).2 hbegins
    rw [resolution_eq _ _ _ _ _ htakes, resolution_eq _ _ _ _ _ htakes]
    have hgroups : Related _ _ _ := consultation_related messages
      (ambient.scene.withUser user.dn user.username) gateway connection texts user
    -- Hooks and default role join both results alike.
    exact Related.map (hgroups.bind fun _ _ hroles => Related.after fun legacy =>
        Related.after fun additional => .ended ((hroles.union legacy).union additional))
      fun _ _ hroles => ⟨_, _, rfl, rfl, hroles.withDefault texts⟩
  | error refusal =>
    have hrefused : ∀ entries, gateway.resolution { connection with entries := entries } texts hooks
        user ambient = .error refusal := by
      intro entries
      obtain ⟨lines, hcourse⟩ := Resolver.resolve_refused
        ⟨gateway.withConnection { connection with entries := entries }, texts.config, hooks⟩ user
        hbegins
      obtain ⟨after, hrun, -⟩ := hcourse.exists_run
      rw [resolution, hrun]
    rw [hrefused, hrefused]
    exact .failed _

/-- **When nulls are not read.** Deleting the nulls of a reply leaves what is collected exactly if
no null is listed under the attribute, or the text of null is collected without it too: that text is
all that a null can add. Where a value that the reply gives the attribute has no text, collecting
fails with the nulls and without them. A resolution over the reply and one over the reply without
its nulls fail alike, or both grant roles, and these are the same exactly if no null is listed where
groups are searched, or the role of that text is granted anyway. -/
theorem withoutNulls_iff (messages : List Message) :
    (∀ name,
      (Readable (messages.map Message.entry) name → ∃ found cleaned,
        collect (messages.map Message.entry) (.text name) = .ok found ∧
          collect ((messages.map Message.withoutNulls).map Message.entry) (.text name)
            = .ok cleaned ∧
          found.AddsIf (ListsNull messages name) nullText cleaned ∧
          (found = cleaned ↔ (ListsNull messages name → nullText ∈ cleaned))) ∧
      (¬ Readable (messages.map Message.entry) name →
        collect (messages.map Message.entry) (.text name) = .error .unwritable ∧
          collect ((messages.map Message.withoutNulls).map Message.entry) (.text name)
            = .error .unwritable)) ∧
    (∀ (gateway : DirectoryGateway) (connection : Connection) (texts : GroupTexts) (hooks : Hooks)
      (user : User) (ambient : Ambient),
      let granted := gateway.resolution { connection with entries := messages.map Message.entry }
        texts hooks user ambient
      let cleaned := gateway.resolution
        { connection with entries := (messages.map Message.withoutNulls).map Message.entry } texts
        hooks user ambient
      (∃ failure, granted = .error failure ∧ cleaned = .error failure) ∨
      ∃ roles others : TextSet,
        granted = .ok { texts := roles } ∧ cleaned = .ok { texts := others } ∧
        roles.AddsIf (texts.base ≠ none ∧ ListsNull messages texts.roleAttribute)
          (texts.role nullText) others ∧
        (roles = others ↔ (texts.base ≠ none ∧ ListsNull messages texts.roleAttribute →
          texts.role nullText ∈ others))) := by
  constructor
  · intro name
    have hadds := collected_addsIf messages name
    constructor
    · intro hreadable
      exact ⟨_, _, collect_of_readable hreadable,
        collect_of_readable (readable_withoutNulls_iff.2 hreadable), hadds, hadds.eq_iff⟩
    · intro hreadable
      exact ⟨collect_of_not_readable hreadable,
        collect_of_not_readable (mt readable_withoutNulls_iff.1 hreadable)⟩
  · intro gateway connection texts hooks user ambient granted cleaned
    rcases (gateway.resolution_related messages connection texts hooks user ambient).elim with
      hfailed | ⟨_, _, hgranted, hcleaned, roles, others, rfl, rfl, hadds⟩
    · exact Or.inl hfailed
    · exact Or.inr ⟨roles, others, hgranted, hcleaned, hadds, hadds.eq_iff⟩

/-- An entry that lists a null beside a name grants a role that is made of the null. -/
theorem null_granted_as_role :
    let messages : List Message :=
      [{ kind := .text "searchResEntry"
         attributes := some (some [("cn", .list [.null, .text "developers"])]) }]
    let cleaned := messages.map Message.withoutNulls
    let texts : GroupTexts := { base := some "ou=groups" }
    let granted (messages : List Message) := DirectoryGateway.resolution ⟨.text "dc=x", .connect⟩
      { entries := messages.map Message.entry } texts {} ⟨"uid=ben,dc=x", "ben", []⟩ {}
    collect (messages.map Message.entry) (.text "cn")
        = .ok (TextSet.ofList ["None", "developers"]) ∧
      collect (cleaned.map Message.entry) (.text "cn") = .ok (TextSet.ofList ["developers"]) ∧
      granted messages = .ok { texts := TextSet.ofList ["ROLE_DEVELOPERS", "ROLE_NONE"] } ∧
      granted cleaned = .ok { texts := TextSet.ofList ["ROLE_DEVELOPERS"] } := by
  intro messages cleaned texts granted
  have hfilter : SearchFilter.render (.text texts.filter) [.text "uid=ben,dc=x", .text "ben"]
      = .ok "(member=uid=ben,dc=x)" := by cbv
  have hbase : texts.base = some "ou=groups" := rfl
  have hworks : ∀ entries, Connection.Works { entries := entries } := fun _ =>
    ⟨rfl, rfl, by simp, _, _, rfl, rfl, rfl⟩
  have hhook : (Hooks.legacyConsultation {} ⟨"uid=ben,dc=x", "ben", []⟩).answer
      = .ok .empty := rfl
  have hhook' : (Hooks.additionalConsultation {} ⟨"uid=ben,dc=x", "ben", []⟩).answer
      = .ok .empty := rfl
  have htakes : ((Ambient.scene {}).withUser "uid=ben,dc=x" "ben").Takes .resolver
      Resolver.loggerName .debug := by decide
  have hgranted : ∀ (entries : List Entry) (found : TextSet),
      collect entries (.text texts.roleAttribute) = .ok found →
      DirectoryGateway.resolution ⟨.text "dc=x", .connect⟩ { entries := entries } texts {}
        ⟨"uid=ben,dc=x", "ben", []⟩ {}
        = .ok { texts := texts.withDefault (((texts.roles found).union .empty).union .empty) } := by
    intro entries found hfound
    obtain ⟨lines, hcourse⟩ := DirectoryGateway.resolve_course hbase "dc=x" .connect
      (hworks entries) hfound hhook hhook' hfilter htakes (Or.inl rfl)
    obtain ⟨after, hrun, -⟩ := hcourse.exists_run
    rw [DirectoryGateway.resolution, hrun]
  have hfound : collect (messages.map Message.entry) (.text "cn")
      = .ok (TextSet.ofList ["None", "developers"]) := by rfl
  have hcleaned : collect (cleaned.map Message.entry) (.text "cn")
      = .ok (TextSet.ofList ["developers"]) := by rfl
  have hroles : texts.withDefault (((texts.roles (TextSet.ofList ["None", "developers"])).union
      .empty).union .empty) = TextSet.ofList ["ROLE_DEVELOPERS", "ROLE_NONE"] := by decide
  have hroles' : texts.withDefault (((texts.roles (TextSet.ofList ["developers"])).union
      .empty).union .empty) = TextSet.ofList ["ROLE_DEVELOPERS"] := by decide
  rw [← hroles, ← hroles']
  exact ⟨hfound, hcleaned, hgranted _ _ hfound, hgranted _ _ hcleaned⟩

end GrantedRoles
