import GrantedRoles.Proofs.Directory.Connection
import GrantedRoles.Proofs.Resolution

/-!
# What a directory search finds

The values of an attribute that a search collects are those that the found entries give it
(`mem_collect`). A search over a connection that does its work renders the filter, opens the
connection, searches once and releases the connection, and answers with what it collects
(`search_course`); that the directory refuses the release changes nothing about it.
-/

set_option autoImplicit false

namespace GrantedRoles

open Log Text

/-! ## Collected values -/

/-- What is equal to a text is that text, or a scope with that word. -/
theorem Value.same_text_iff {v : Value} {s : String} :
    v.same (.text s) = true ↔ v.asText? = some s := by
  cases v <;> simp [Value.same, Value.sameAtom, Value.asText?]

/-- A value is among those of an attribute: it is an element of a list or tuple, or a single value
that is there. -/
inductive Value.Among : Value → Value → Prop
  | listed {v : Value} {items : List Value} (h : v ∈ items) : Among v (.list items)
  | tupled {v : Value} {items : List Value} (h : v ∈ items) : Among v (.tuple items)
  | single {v : Value} (hpresent : v.isPresent = true) (hlist : ∀ items, v ≠ .list items)
      (htuple : ∀ items, v ≠ .tuple items) : Among v v

theorem mem_attributeTexts {held : Value} {s : String} :
    s ∈ attributeTexts held ↔ ∃ v, Value.Among v held ∧ valueText v = s := by
  constructor
  · intro h
    cases held with
    | list items =>
      obtain ⟨v, hv, rfl⟩ := List.mem_map.1 h
      exact ⟨v, .listed hv, rfl⟩
    | tuple items =>
      obtain ⟨v, hv, rfl⟩ := List.mem_map.1 h
      exact ⟨v, .tupled hv, rfl⟩
    | null => cases h
    | _ => exact ⟨_, .single rfl (by simp) (by simp), (List.mem_singleton.1 h).symm⟩
  · rintro ⟨v, hamong, rfl⟩
    cases hamong with
    | listed hv => exact List.mem_map_of_mem hv
    | tupled hv => exact List.mem_map_of_mem hv
    | single hpresent hlist htuple =>
      cases held with
      | list items => exact absurd rfl (hlist items)
      | tuple items => exact absurd rfl (htuple items)
      | null => cases hpresent
      | _ => exact List.mem_singleton.2 rfl

/-- An entry gives a name a value: it was found, and one of its attributes has the name, compared
without regard to case, and the value among its values. -/
def Entry.Gives (entry : Entry) (name : String) (v : Value) : Prop :=
  entry.kind.asText? = some "searchResEntry" ∧
    ∃ field ∈ entry.attributes, lower field.1 = lower name ∧ Value.Among v field.2

theorem Entry.mem_texts {entry : Entry} {name s : String} :
    s ∈ entry.texts name ↔ ∃ v, entry.Gives name v ∧ valueText v = s := by
  unfold texts Gives isFound
  by_cases hfound : entry.kind.same (.text "searchResEntry") = true
  · rw [if_pos hfound]
    rw [Value.same_text_iff] at hfound
    simp only [List.mem_flatMap, List.mem_filter, sameLower_iff, mem_attributeTexts, hfound,
      true_and]
    constructor
    · rintro ⟨field, ⟨hfield, hname⟩, v, hamong, rfl⟩
      exact ⟨v, ⟨field, hfield, hname, hamong⟩, rfl⟩
    · rintro ⟨v, ⟨field, hfield, hname, hamong⟩, rfl⟩
      exact ⟨field, ⟨hfield, hname⟩, v, hamong, rfl⟩
  · rw [if_neg hfound]
    rw [Value.same_text_iff] at hfound
    simp [hfound]

/-- A value can be written if all values that are among its own can. -/
theorem Value.isWritable_iff_among {held : Value} :
    held.isWritable = true ↔ ∀ v, Value.Among v held → v.isWritable = true := by
  constructor
  · intro h v hamong
    cases hamong with
    | listed hv => exact Value.areWritable_iff.1 h v hv
    | tupled hv => exact Value.areWritable_iff.1 h v hv
    | single => exact h
  · intro h
    cases held with
    | list items => exact Value.areWritable_iff.2 fun v hv => h v (.listed hv)
    | tuple items => exact Value.areWritable_iff.2 fun v hv => h v (.tupled hv)
    | null => rfl
    | _ => exact h _ (.single rfl (by simp) (by simp))

/-- An entry can be read under a name if every value that it gives the name has a text. -/
theorem Entry.isReadable_iff {entry : Entry} {name : String} :
    entry.isReadable name = true ↔ ∀ v, entry.Gives name v → v.isWritable = true := by
  unfold isReadable Gives isFound
  by_cases hfound : entry.kind.same (.text "searchResEntry") = true
  · rw [hfound]
    rw [Value.same_text_iff] at hfound
    simp only [hfound, true_and, Bool.not_true, Bool.false_or, List.all_eq_true, Bool.or_eq_true,
      Bool.not_eq_true']
    constructor
    · rintro h v ⟨field, hfield, hname, hamong⟩
      have hsame : sameLower field.1 name = true := sameLower_iff.2 hname
      rcases h field hfield with hother | hwritable
      · rw [hsame] at hother
        cases hother
      · exact Value.isWritable_iff_among.1 hwritable v hamong
    · intro h field hfield
      cases hsame : sameLower field.1 name with
      | false => exact Or.inl rfl
      | true =>
        exact Or.inr (Value.isWritable_iff_among.2 fun v hamong =>
          h v ⟨field, hfield, sameLower_iff.1 hsame, hamong⟩)
  · have hkind := mt Value.same_text_iff.2 hfound
    simp [hfound, hkind]

/-- Every value that the entries give a name has a text. -/
def Readable (entries : List Entry) (name : String) : Prop :=
  ∀ entry ∈ entries, ∀ v, entry.Gives name v → v.isWritable = true

theorem readable_iff {entries : List Entry} {name : String} :
    Readable entries name ↔ (entries.all (·.isReadable name)) = true := by
  rw [List.all_eq_true]
  exact forall₂_congr fun _ _ => Entry.isReadable_iff.symm

/-- The values that are collected under a name are those that the entries give it. -/
theorem exists_collect {entries : List Entry} {name : String} (h : Readable entries name) :
    ∃ found, collect entries (.text name) = .ok found ∧
      ∀ s, s ∈ found ↔ ∃ entry ∈ entries, ∃ v, entry.Gives name v ∧ valueText v = s := by
  refine ⟨TextSet.ofList (entries.flatMap fun entry => entry.texts name), ?_, ?_⟩
  · simp only [collect, Value.asText?_text, readable_iff.1 h, if_true]
  · intro s
    simp only [TextSet.mem_ofList, List.mem_flatMap, Entry.mem_texts]

/-- Where one of these values has no text, nothing is collected. -/
theorem collect_of_not_readable {entries : List Entry} {name : String}
    (h : ¬ Readable entries name) : collect entries (.text name) = .error .unwritable := by
  rw [readable_iff, Bool.not_eq_true] at h
  simp only [collect, Value.asText?_text, h, Bool.false_eq_true, if_false]

/-! ## Searches -/

/-- What searching a gateway's connection comes to in a scene. -/
def DirectoryGateway.consulted (gateway : DirectoryGateway) (scene : Scene)
    (connection : Connection) (query : Query) : Consultation :=
  ⟨searchCalls gateway connection query, searchOutcome scene gateway connection query⟩

/-- Asking a directory gateway comes to that, over any connection. -/
theorem DirectoryGateway.consults_consulted (gateway : DirectoryGateway) (scene : Scene)
    (connection : Connection) (query : Query) :
    (gateway.withConnection connection).Consults scene query
      (gateway.consulted scene connection query) :=
  (search_conduct gateway connection query).exists_course

/-- A connection does its work: it opens and searches without failing, the search is reported with a
code that is zero, and releasing it fails at most with what the directory reports. -/
structure Connection.Works (connection : Connection) : Prop where
  connects : connection.connectFailure = none
  searches : connection.searchFailure = none
  releases : ∀ failure, connection.unbindFailure = some failure →
    ∃ fault, failure = .directory fault
  succeeds : ∃ fields code, connection.result = .dict fields ∧
    Assoc.get? fields Connection.codeKey = some code ∧ code.isZero = true

theorem Connection.Works.verdict_eq {connection : Connection} (h : connection.Works) :
    Connection.verdict connection.result = .ok .success := by
  obtain ⟨fields, code, hresult, hcode, hzero⟩ := h.succeeds
  have htruthy : (Value.dict fields).isTruthy = true := by
    cases fields with
    | nil => cases hcode
    | cons entry rest => rfl
  rw [hresult]
  simp [Connection.verdict, htruthy, hcode, hzero]

namespace DirectoryGateway

variable {connection : Connection}

/-- The base of a search as a text: below the root, at the root if it is empty, as it is if there is
no root. -/
def below (root base : String) : String :=
  if base = "" then root else if root = "" then base else base ++ "," ++ root

theorem absoluteBase_text (root base : String) (opening : Call) :
    (DirectoryGateway.mk (.text root) opening).absoluteBase (.text base)
      = .ok (.text (below root base)) := by
  unfold absoluteBase below
  by_cases hbase : base = "" <;> by_cases hroot : root = "" <;>
    simp [Value.isTruthy, hbase, hroot]

/-- Below a text, a search for a text is prepared once its filter is rendered. -/
theorem prepare_text (root : String) (opening : Call) {query : Query} {base : String}
    (hbase : query.base = .text base) :
    (DirectoryGateway.mk (.text root) opening).prepare query
      = (SearchFilter.render query.template query.params).map fun filter =>
          (filter, .text (below root base)) := by
  rw [prepare, hbase, absoluteBase_text]
  cases SearchFilter.render query.template query.params <;> rfl

theorem scopeOf_scope (s : Scope) : scopeOf (.scope s) = .ok s := by
  simp [scopeOf, Value.asText?]

/-- A warning of something that the directory reports is plain, if what it is about is. -/
theorem plain_warning (event : String) {fields : List (String × Value)}
    (h : ∀ entry ∈ fields, entry.1 ∉ interpretedFields ∧ entry.2.isWritable = true) :
    (warning event fields).Plain :=
  ⟨⟨⟨event, rfl⟩, fun entry hentry => (h entry hentry).1⟩, fun entry hentry => (h entry hentry).2⟩

/-- Releasing a connection that does its work succeeds if what the directory reports of it can be
logged. -/
theorem released_of_works {scene : Scene} {base : Value} (h : connection.Works)
    (hbase : base.isWritable = true)
    (hwarns : connection.unbindFailure = none ∨ scene.Takes .gateway loggerName .warning) :
    released scene base connection.unbindFailure = .ok () := by
  cases hunbind : connection.unbindFailure with
  | none => rfl
  | some failure =>
    obtain ⟨fault, rfl⟩ := h.releases failure hunbind
    rcases hwarns with hnone | htakes
    · rw [hunbind] at hnone
      cases hnone
    · refine settle_of_taken ?_ _
      intro note hnote
      obtain rfl := List.mem_singleton.1 hnote
      refine Scene.reply_of_plain (plain_warning _ ?_) htakes
      simp [interpretedFields, recordField, exceptionField, hbase]

/-- The course of a search over a connection that does its work. -/
theorem search_course {scene : Scene} {gateway : DirectoryGateway} {query : Query}
    {filter : String} {base : Value} {s : Scope} {found : TextSet} (h : connection.Works)
    (hprepared : gateway.prepare query = .ok (filter, base)) (hbase : base.isWritable = true)
    (hscope : query.scope = .scope s)
    (hfound : collect connection.entries query.wanted = .ok found)
    (hwarns : connection.unbindFailure = none ∨ scene.Takes .gateway loggerName .warning) :
    (gateway.withConnection connection).Consults scene query
      ⟨[gateway.opening, .search base filter s query.wanted, .unbind], .ok found⟩ := by
  have hfinding : finding connection base filter query
      = { outcome := .ok found, calls := [.search base filter s query.wanted] } := by
    simp only [finding, answered, hscope, scopeOf_scope, h.searches, h.verdict_eq, hfound]
  have hsearch : Conduct scene (gateway.search connection query) _ _ _ :=
    search_conduct_obtained hprepared h.connects
  rw [hfinding, released_of_works h hbase hwarns] at hsearch
  exact ⟨_, hsearch.course⟩

end DirectoryGateway

end GrantedRoles
