import GrantedRoles.Proofs.Password.Settings
import GrantedRoles.Settings.Store

/-!
# Settings objects without the password

An object without the password holds null under the name of that setting and is otherwise the same.
It is written in the same way, takes the same assignments and describes the same settings but for
the password. The settings of a process may be made, fetched and assigned without it.
-/

set_option autoImplicit false

namespace GrantedRoles

/-! ## Objects -/

namespace SettingsObject

/-- An entry without the password. -/
def entryWithoutPassword (entry : String × Value) : String × Value :=
  if entry.1 = SettingField.bindPassword.name then (entry.1, .null) else entry

/-- An object without the password. -/
def withoutPassword (object : SettingsObject) : SettingsObject :=
  { object with entries := object.entries.map entryWithoutPassword }

theorem entryWithoutPassword_fst (entry : String × Value) :
    (entryWithoutPassword entry).1 = entry.1 := by
  unfold entryWithoutPassword
  split <;> rfl

theorem entryWithoutPassword_self (entry : String × Value) :
    entryWithoutPassword (entryWithoutPassword entry) = entryWithoutPassword entry := by
  unfold entryWithoutPassword
  by_cases hname : entry.1 = SettingField.bindPassword.name
  · rw [if_pos hname, if_pos hname]
  · rw [if_neg hname, if_neg hname]

theorem map_map_entryWithoutPassword (entries : Assoc Value) :
    (entries.map entryWithoutPassword).map entryWithoutPassword
      = entries.map entryWithoutPassword := by
  have hself : entryWithoutPassword ∘ entryWithoutPassword = entryWithoutPassword :=
    funext entryWithoutPassword_self
  rw [List.map_map, hself]

theorem withoutPassword_self (object : SettingsObject) :
    object.withoutPassword.withoutPassword = object.withoutPassword := by
  simp only [withoutPassword, map_map_entryWithoutPassword]

theorem get?_map_of_ne (entries : Assoc Value) {name : String}
    (h : name ≠ SettingField.bindPassword.name) :
    Assoc.get? (entries.map entryWithoutPassword) name = entries.get? name := by
  rw [entries.get?_map entryWithoutPassword_fst]
  unfold entryWithoutPassword
  simp only [if_neg h, Option.map_id']

theorem has_withoutPassword (object : SettingsObject) (name : String) :
    object.withoutPassword.has name = object.has name := by
  unfold has withoutPassword
  rw [object.entries.get?_map entryWithoutPassword_fst, Option.isSome_map]

/-- The entries that are shown do not have the password. -/
theorem filter_map_entryWithoutPassword (entries : Assoc Value) :
    ((entries.map entryWithoutPassword).filter fun entry =>
        (SettingField.ofName? entry.1).any SettingField.isShown)
      = entries.filter fun entry => (SettingField.ofName? entry.1).any SettingField.isShown := by
  induction entries with
  | nil => rfl
  | cons entry rest ih =>
    rw [List.map_cons, List.filter_cons, List.filter_cons, entryWithoutPassword_fst, ih]
    by_cases hname : entry.1 = SettingField.bindPassword.name
    · -- The password is the one setting that is not shown.
      simp [hname, SettingField.isShown]
    · rw [entryWithoutPassword, if_neg hname]

/-- **The writing of an object does not show the password.** -/
theorem literal_withoutPassword (object : SettingsObject) :
    object.withoutPassword.literal = object.literal := by
  have hwriters : writerNames.any object.withoutPassword.has = writerNames.any object.has :=
    congrArg _ (funext object.has_withoutPassword)
  have hcomputed : object.withoutPassword.checkComputed = object.checkComputed := by
    unfold checkComputed withoutPassword
    rw [get?_map_of_ne _ (by decide)]
  have hshown : object.withoutPassword.shown = object.shown := by
    have hlisted : ∀ listed : List (String × Value),
        (object.entries.map entryWithoutPassword).any
            (fun entry => (listed.lookup entry.1).any Value.isTruthy)
          = object.entries.any fun entry => (listed.lookup entry.1).any Value.isTruthy := by
      intro listed
      rw [List.any_map]
      refine congrArg (List.any object.entries) ?_
      funext entry
      exact congrArg (fun name => (listed.lookup name).any Value.isTruthy)
        (entryWithoutPassword_fst entry)
    unfold shown withoutPassword
    rw [get?_map_of_ne _ (by decide)]
    simp only [filter_map_entryWithoutPassword, hlisted]
  unfold literal
  rw [hwriters, hcomputed, hshown]
  rfl

/-! ## Reading -/

/-- What an assignment comes to if no entry says how names are assigned. -/
def assigned (object : SettingsObject) (name : String) (value : Value) :
    Except Failure Unit × SettingsObject :=
  match SettingField.ofName? name with
  | some field =>
      (if object.notes then .ok () else .error .noSuchOperation,
        { object with entries := object.entries.put field.name value })
  | none =>
      match object.assignOther name value with
      | .ok changed => (.ok (), changed)
      | .error failure => (.error failure, object)

end SettingsObject

/-! ## The settings of a process -/

namespace Environment

theorem withoutPassword_self (environment : Environment) :
    environment.withoutPassword.withoutPassword = environment.withoutPassword := by
  unfold withoutPassword
  rw [List.filter_filter]
  refine congrArg (List.filter · environment) ?_
  funext entry
  exact Bool.and_self _

end Environment

namespace SettingsStore

/-- The settings of a process without the password. -/
def withoutPassword (store : SettingsStore) : SettingsStore :=
  { store with
    environment := store.environment.withoutPassword
    objects := store.objects.map SettingsObject.withoutPassword }

theorem map_map_withoutPassword (objects : List SettingsObject) :
    (objects.map SettingsObject.withoutPassword).map SettingsObject.withoutPassword
      = objects.map SettingsObject.withoutPassword := by
  have hself : SettingsObject.withoutPassword ∘ SettingsObject.withoutPassword
      = SettingsObject.withoutPassword := funext SettingsObject.withoutPassword_self
  rw [List.map_map, hself]

theorem withoutPassword_self (store : SettingsStore) :
    store.withoutPassword.withoutPassword = store.withoutPassword := by
  simp only [withoutPassword, map_map_withoutPassword, Environment.withoutPassword_self]

end SettingsStore

end GrantedRoles
