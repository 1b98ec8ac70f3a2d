import GrantedRoles.Log.Logging

/-!
# What a line shows

`Note.get?_line` says what stands under each name of a line: the logger and the level are those of
the call, everything else is the call's own field, or else the value bound in the context, and the
service is filled in if neither has one. Two names are never shown. A value is shown in the form a
line can hold, which is the value itself unless it is, or holds, octets, a tuple or a scope; and it
can be written in this form if it can be written at all (`Note.line_isWritable_iff`).
-/

set_option autoImplicit false

namespace GrantedRoles

namespace Log

/-! ## Values in written form -/

mutual

/-- A value that a line can hold as it is: neither octets nor a tuple nor a scope is in it. -/
def isWritten : Value → Bool
  | .octets _ _ => false
  | .tuple _ => false
  | .scope _ => false
  | .list items => areWritten items
  | .dict entries => entriesWritten entries
  | _ => true

/-- Items that a line can hold as they are. -/
def areWritten : List Value → Bool
  | [] => true
  | item :: rest => isWritten item && areWritten rest

/-- Entries that a line can hold as they are. -/
def entriesWritten : List (String × Value) → Bool
  | [] => true
  | (_, value) :: rest => isWritten value && entriesWritten rest

end

mutual

theorem loggable_of_isWritten (value : Value) (h : isWritten value = true) :
    loggable value = value := by
  cases value with
  | list items => rw [loggable, loggables_of_areWritten items h]
  | dict entries => rw [loggable, loggableEntries_of_entriesWritten entries h]
  | octets os growable => cases h
  | tuple items => cases h
  | scope s => cases h
  | _ => rfl

theorem loggables_of_areWritten (items : List Value) (h : areWritten items = true) :
    loggables items = items := by
  cases items with
  | nil => rfl
  | cons item rest =>
    obtain ⟨hitem, hrest⟩ := Bool.and_eq_true_iff.1 h
    rw [loggables, loggable_of_isWritten item hitem, loggables_of_areWritten rest hrest]

theorem loggableEntries_of_entriesWritten (entries : List (String × Value))
    (h : entriesWritten entries = true) : loggableEntries entries = entries := by
  cases entries with
  | nil => rfl
  | cons entry rest =>
    obtain ⟨key, value⟩ := entry
    obtain ⟨hvalue, hrest⟩ := Bool.and_eq_true_iff.1 h
    rw [loggableEntries, loggable_of_isWritten value hvalue,
      loggableEntries_of_entriesWritten rest hrest]

end

theorem get?_loggableEntries (fields : Assoc Value) (key : String) :
    Assoc.get? (loggableEntries fields) key = (fields.get? key).map loggable := by
  induction fields with
  | nil => rfl
  | cons entry rest ih =>
    obtain ⟨name, value⟩ := entry
    rw [loggableEntries, Assoc.get?_cons, Assoc.get?_cons, ih]
    by_cases hname : key = name <;> simp [hname]

theorem keys_loggableEntries (fields : Assoc Value) :
    Assoc.keys (loggableEntries fields) = fields.keys := by
  induction fields with
  | nil => rfl
  | cons entry rest ih =>
    obtain ⟨key, value⟩ := entry
    exact congrArg (key :: ·) ih

mutual

/-- The form that a line holds can be written exactly if the value can. -/
theorem isWritable_loggable (value : Value) :
    (loggable value).isWritable = value.isWritable := by
  cases value with
  | tuple items => exact areWritable_loggables items
  | list items => exact areWritable_loggables items
  | dict entries => exact entriesAreWritable_loggableEntries entries
  | _ => rfl

theorem areWritable_loggables (items : List Value) :
    Value.areWritable (loggables items) = Value.areWritable items := by
  cases items with
  | nil => rfl
  | cons item rest =>
    rw [loggables, Value.areWritable, Value.areWritable, isWritable_loggable item,
      areWritable_loggables rest]

theorem entriesAreWritable_loggableEntries (entries : List (String × Value)) :
    Value.entriesAreWritable (loggableEntries entries) = Value.entriesAreWritable entries := by
  cases entries with
  | nil => rfl
  | cons entry rest =>
    obtain ⟨key, value⟩ := entry
    rw [loggableEntries, Value.entriesAreWritable, Value.entriesAreWritable,
      isWritable_loggable value, entriesAreWritable_loggableEntries rest]

end

/-- Fields that are not repeated can be written if the value of each name can. -/
theorem all_isWritable_iff {fields : Assoc Value} (h : fields.keys.Nodup) :
    (fields.all (·.2.isWritable)) = true ↔
      ∀ key value, fields.get? key = some value → value.isWritable = true := by
  rw [List.all_eq_true]
  constructor
  · intro hall key value hvalue
    exact hall (key, value) ((Assoc.mem_iff_get? h).2 hvalue)
  · rintro hall ⟨key, value⟩ hentry
    exact hall key value ((Assoc.mem_iff_get? h).1 hentry)

/-! ## The fields of a line -/

/-- Fields with one of these names are dropped, and no others. -/
theorem get?_filter_names (fields : Assoc Value) (names : List String) (key : String) :
    Assoc.get? (fields.filter fun entry => !names.contains entry.1) key
      = if key ∈ names then none else fields.get? key := by
  by_cases h : key ∈ names
  · rw [if_pos h]
    exact fields.get?_filter_dropped (fun name => !names.contains name) (by simp [h])
  · rw [if_neg h]
    exact fields.get?_filter (fun name => !names.contains name) (by simp [h])

namespace Note

theorem nodup_own (note : Note) : note.own.keys.Nodup := by
  unfold own
  split
  · exact Assoc.nodup_put _ _ (Assoc.nodup_ofPairs _)
  · exact Assoc.nodup_ofPairs _

/-- The fields that the context fills in are not repeated either. -/
theorem nodup_merged (note : Note) (context : Context) : (note.merged context).keys.Nodup := by
  have hfold : ∀ line : Assoc Value, line.keys.Nodup →
      (Assoc.keys (context.foldl (fun line entry => Assoc.putIfAbsent entry.1 entry.2 line)
        line)).Nodup := by
    induction context with
    | nil => exact fun _ h => h
    | cons entry rest ih => exact fun line h => ih _ (Assoc.nodup_putIfAbsent _ _ h)
  exact hfold _ note.nodup_own

/-- A field of a call hides the one of the context that has its name. -/
theorem get?_merged (note : Note) (context : Context) (key : String) :
    (note.merged context).get? key = (note.own.get? key).or (Assoc.get? context key) := by
  -- Entries of the context only fill gaps, so the fold is followed for any line it starts from.
  have hfold : ∀ line : Assoc Value,
      (context.foldl (fun line entry => Assoc.putIfAbsent entry.1 entry.2 line) line).get? key
        = (line.get? key).or (Assoc.get? context key) := by
    induction context with
    | nil => simp
    | cons entry rest ih =>
      intro line
      obtain ⟨k, v⟩ := entry
      rw [List.foldl_cons, ih, Assoc.get?_putIfAbsent, Assoc.get?_cons, Option.or_assoc]
      by_cases hk : key = k <;> simp [hk]
  exact hfold note.own

/-- What stands under a name before it is brought into written form. -/
def shown (note : Note) (context : Context) (service : Value) (key : String) : Option Value :=
  if key = "logger" then some (.text (note.shownLogger context))
  else if key = "level" then some (.text note.level.word)
  else ((note.own.get? key).or (Assoc.get? context key)).or
    (if key = "service" then some service else none)

theorem get?_line (note : Note) (context : Context) (service : Value) {key : String}
    (h : key ∉ hiddenFields) :
    Assoc.get? (note.line context service) key
      = (note.shown context service key).map loggable := by
  rw [line, get?_loggableEntries, get?_filter_names, if_neg h, Assoc.get?_putIfAbsent, Assoc.get?_put,
    Assoc.get?_put, get?_merged, shown]
  by_cases hlogger : key = "logger"
  · simp [hlogger]
  · by_cases hlevel : key = "level"
    · simp [hlevel]
    · simp [hlogger, hlevel]

theorem nodup_line (note : Note) (context : Context) (service : Value) :
    (Assoc.keys (note.line context service)).Nodup := by
  rw [line, keys_loggableEntries]
  exact Assoc.nodup_filter _ (Assoc.nodup_putIfAbsent _ _ (Assoc.nodup_put _ _
    (Assoc.nodup_put _ _ (note.nodup_merged context))))

/-- A line can be written if everything that it shows can. -/
theorem line_isWritable_iff (note : Note) (context : Context) (service : Value) :
    ((note.line context service).all (·.2.isWritable)) = true ↔
      ∀ key ∉ hiddenFields, ∀ value, note.shown context service key = some value →
        value.isWritable = true := by
  rw [all_isWritable_iff (note.nodup_line context service)]
  constructor
  · intro hall key hkey value hvalue
    rw [← isWritable_loggable]
    exact hall key _ (by rw [note.get?_line _ _ hkey, hvalue]; rfl)
  · intro hall key value hvalue
    by_cases hkey : key ∈ hiddenFields
    · rw [line, get?_loggableEntries, get?_filter_names, if_pos hkey] at hvalue
      cases hvalue
    · rw [note.get?_line _ _ hkey] at hvalue
      obtain ⟨held, hheld, rfl⟩ := Option.map_eq_some_iff.1 hvalue
      rw [isWritable_loggable]
      exact hall key hkey held hheld

/-- The fields of a call that names each field once are its event and these. -/
theorem get?_own {note : Note} (hfields : Assoc.keys note.fields |>.Nodup)
    (hevent : note.event.isPresent = true) (key : String) :
    note.own.get? key
      = if key = "event" then some note.event else Assoc.get? note.fields key := by
  rw [own, if_pos hevent, Assoc.get?_put, Assoc.ofPairs_of_nodup hfields]

end Note

end Log

end GrantedRoles
