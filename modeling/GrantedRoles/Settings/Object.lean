import GrantedRoles.Settings.Construction

/-!
# Settings as an object

Settings live in an object that can be changed after it was made. It holds entries by name, in the
order in which they came, and an assignment is not validated: a setting takes any value, and so
does any other name with an underscore at its head. Some names steer the object itself: with them
the entries are exchanged at once, entries beyond them are added, or the object loses what it needs
to note, show or compare its settings. `SettingsObject.settings` reads the settings back.
-/

set_option autoImplicit false

namespace GrantedRoles

/-- An object with settings: its entries, the entries beyond them, the hidden ones, and whether it
can note which settings were assigned. -/
structure SettingsObject where
  entries : Assoc Value
  extra : Value := .null
  hidden : Value := .null
  notes : Bool := true

namespace SettingsObject

/-- The object that holds these settings. -/
def ofSettings (settings : Settings) : SettingsObject :=
  { entries := SettingField.all.map fun field => (field.name, settings.get field) }

/-! ## Names that steer an object -/

/-- The name of the object's kind. -/
def kindName : String := "__class__"

/-- The name of all entries at once. -/
def entriesName : String := "__dict__"

/-- The name of the entries beyond. -/
def extraName : String := "__pydantic_extra__"

/-- The name of the hidden entries. -/
def hiddenName : String := "__pydantic_private__"

/-- The name of what notes the assigned settings. -/
def notesName : String := "__pydantic_fields_set__"

/-- Names that can be read at an object and never assigned. -/
def fixedNames : List String :=
  ["model_extra", "model_fields_set", "__fields_set__", "__weakref__", "__class_vars__",
    "__private_attributes__", "__signature__", "__pydantic_complete__",
    "__pydantic_core_schema__", "__pydantic_custom_init__", "__pydantic_decorators__",
    "__pydantic_generic_metadata__", "__pydantic_parent_namespace__", "__pydantic_post_init__",
    "__pydantic_root_model__", "__pydantic_serializer__", "__pydantic_validator__",
    "__pydantic_fields__", "__pydantic_setattr_handlers__", "__pydantic_computed_fields__"]

/-- The entry that would say how names are assigned. -/
def handlersName : String := "__pydantic_setattr_handlers__"

/-- The entry that would say what the object descends from, and what it says it under. -/
def descentName : String := "__pydantic_generic_metadata__"

/-- The entry that would list the settings. -/
def listName : String := "__pydantic_fields__"

/-- The entry that would list what is computed from settings. -/
def computedName : String := "__pydantic_computed_fields__"

/-- The entries that would write the object. -/
def writerNames : List String := ["__repr_name__", "__repr_str__", "__repr_args__"]

/-- The entry that would make the group search. -/
def groupSearchName : String := "group_search_config"

/-! ## Reading -/

/-- The object has an entry of a name. -/
def has (object : SettingsObject) (name : String) : Bool := (object.entries.get? name).isSome

/-- The value under a name: an entry, or one of those beyond. -/
def read (object : SettingsObject) (name : String) : Except Failure Value :=
  match object.entries.get? name with
  | some value => .ok value
  | none =>
      match object.extra with
      | .dict entries =>
          match entries.lookup name with
          | some value => .ok value
          | none => .error .noSuchOperation
      | other => .error (if other.isTruthy then .illTyped else .noSuchOperation)

/-- What the object holds under the names of settings; null where it holds nothing. -/
def held (object : SettingsObject) : Settings :=
  ⟨fun field => ((object.read field.name).toOption).getD .null⟩

/-- The settings that the object holds, if it holds all of these. -/
def holding (object : SettingsObject) (fields : List SettingField) : Except Failure Settings := do
  fields.forM fun field => do
    let _ ← object.read field.name
    pure ()
  pure object.held

/-- The settings that the object holds. -/
def settings (object : SettingsObject) : Except Failure Settings :=
  object.holding SettingField.all

/-- The settings of which a group search is made, in the order in which they are read. -/
def groupSearchFields : List SettingField :=
  [.groupSearchBase, .groupSearchFilter, .groupRoleAttribute, .searchSubtree, .rolePrefix,
    .convertToUpperCase, .defaultRole]

/-- The group search that the settings of the object describe. -/
def groupSearch (object : SettingsObject) : Except Failure GroupSearch := do
  if object.has groupSearchName then .error .illTyped
  let settings ← object.holding groupSearchFields
  settings.groupSearch

/-! ## Writing -/

/-- Settings in writing, with the names of others beside them. -/
def written (entries : Assoc Value) : List String :=
  entries.map fun entry => entry.1 ++ "=" ++ entry.2.literal

/-- Nothing is computed from settings, so nothing may be listed as computed. -/
def checkComputed (object : SettingsObject) : Except Failure Unit :=
  match object.entries.get? computedName with
  | none => .ok ()
  | some (.dict []) => .ok ()
  | some _ => .error .noSuchOperation

/-- The entries that are shown: those of settings, unless another list of settings is there. What
such a list says of an entry says nothing about showing it. -/
def shown (object : SettingsObject) : Except Failure (Assoc Value) :=
  match object.entries.get? listName with
  | none => .ok (object.entries.filter fun entry =>
      (SettingField.ofName? entry.1).any SettingField.isShown)
  | some (.dict listed) =>
      if object.entries.any fun entry => (listed.lookup entry.1).any Value.isTruthy then
        .error .noSuchOperation
      else .ok []
  | some _ => .error .noSuchOperation

/-- The entries beyond that are shown, which are all. -/
def shownExtra (object : SettingsObject) : Except Failure (Assoc Value) :=
  match object.extra with
  | .null => .ok []
  | .dict entries => .ok entries
  | _ => .error .noSuchOperation

/-- The object in writing. -/
def literal (object : SettingsObject) : Except Failure String := do
  if writerNames.any object.has then .error .illTyped
  object.checkComputed
  let entries ← object.shown
  let extra ← object.shownExtra
  if (entries ++ extra).any fun entry => !entry.2.isWritable then .error .unwritable
  pure ("Settings(" ++ ", ".intercalate (written (entries ++ extra)) ++ ")")

/-! ## Comparing -/

/-- The object holds equal settings and nothing beyond or hidden. -/
def holdsSame (object : SettingsObject) (settings : Settings) : Bool :=
  !object.hidden.isPresent && !object.extra.isPresent
    && SettingField.all.all fun field =>
      (object.entries.get? field.name).any fun value => value.same (settings.get field)

/-- The object equals one that was just made with these settings. An object that says what it
descends from is compared by that, and nothing else descends from anything. -/
def same (object : SettingsObject) (settings : Settings) : Except Failure Bool :=
  match object.entries.get? descentName with
  | none => .ok (object.holdsSame settings)
  | some (.dict descent) =>
      match descent.lookup "origin" with
      | none => .error (.missingKey (.text "origin"))
      | some origin => .ok (!origin.isTruthy && object.holdsSame settings)
  | some _ => .error .illTyped

/-! ## Assigning -/

/-- Assigns to a name that is no setting. -/
def assignOther (object : SettingsObject) (name : String) (value : Value) :
    Except Failure SettingsObject :=
  if fixedNames.contains name then .error .noSuchOperation
  else if name = kindName then .error .illTyped
  else if name = entriesName then
    match value with
    | .dict entries => .ok { object with entries }
    | _ => .error .illTyped
  else if name = extraName then .ok { object with extra := value }
  else if name = hiddenName then .ok { object with hidden := value }
  else if name = notesName then .ok { object with notes := false }
  else if name.toList.head? = some '_' then
    .ok { object with entries := object.entries.put name value }
  else .error (.value (.noSuchSetting name))

/-- Assigns to a name. A setting is assigned before that is noted, so that what cannot be noted
has happened. -/
def assign (object : SettingsObject) (name : String) (value : Value) :
    Except Failure Unit × SettingsObject :=
  let refused (failure : Failure) := (Except.error failure, object)
  let assigned : Except Failure Unit × SettingsObject :=
    match SettingField.ofName? name with
    | some field =>
        (if object.notes then .ok () else .error .noSuchOperation,
          { object with entries := object.entries.put field.name value })
    | none =>
        match object.assignOther name value with
        | .ok changed => (.ok (), changed)
        | .error failure => refused failure
  match object.entries.get? handlersName with
  | none => assigned
  | some (.dict handlers) =>
      if (handlers.lookup name).any Value.isPresent then refused .illTyped else assigned
  | some _ => refused .noSuchOperation

/-! ## What was just made -/

theorem get?_map_name (settings : Settings) (field : SettingField) (fields : List SettingField) :
    Assoc.get? (fields.map fun other => (other.name, settings.get other)) field.name
      = if field ∈ fields then some (settings.get field) else none := by
  induction fields with
  | nil => rfl
  | cons other rest ih =>
    rw [List.map_cons, Assoc.get?_cons, ih]
    by_cases h : field = other
    · simp [h]
    · have hn : field.name ≠ other.name := by
        intro hname
        have := congrArg SettingField.ofName? hname
        simp only [SettingField.ofName?_name, Option.some.injEq] at this
        exact h this
      simp [h, hn]

@[simp] theorem read_ofSettings (settings : Settings) (field : SettingField) :
    (ofSettings settings).read field.name = .ok (settings.get field) := by
  have h : (ofSettings settings).entries.get? field.name = some (settings.get field) := by
    unfold ofSettings
    rw [get?_map_name, if_pos field.mem_all]
  simp [read, h]

@[simp] theorem held_ofSettings (settings : Settings) : (ofSettings settings).held = settings := by
  cases settings with
  | mk get => simp [held, Except.toOption]

@[simp] theorem holding_ofSettings (settings : Settings) (fields : List SettingField) :
    (ofSettings settings).holding fields = .ok settings := by
  have h : (fields.forM fun field => do
      let _ ← (ofSettings settings).read field.name
      (pure () : Except Failure Unit)) = .ok () := by
    induction fields with
    | nil => rfl
    | cons field rest ih => simpa [bind, Except.bind, pure, Except.pure] using ih
  simp [holding, bind, Except.bind, pure, Except.pure] at h ⊢
  simp [h]

@[simp] theorem settings_ofSettings (settings : Settings) :
    (ofSettings settings).settings = .ok settings := holding_ofSettings settings _

@[simp] theorem same_ofSettings (settings other : Settings) :
    (ofSettings settings).same other = .ok (settings.same other) := rfl

end SettingsObject

end GrantedRoles
