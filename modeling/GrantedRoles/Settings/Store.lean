import GrantedRoles.Settings.Object

/-!
# The settings of a process

A process has a machine that it runs on, an environment, the settings objects that were made in it,
and a cache of one: the first successful `get` reads the environment and every later one returns the
identical object, until the cache is cleared. Objects are known by number, so that "identical" means
something; an assignment changes the object itself, in the cache or not.
-/

set_option autoImplicit false

namespace GrantedRoles

/-- Machine, environment, settings objects, the cached one, the one made last, and the one that
`get` returned last since the cache was cleared. -/
structure SettingsStore where
  machine : Machine := {}
  environment : Environment := []
  objects : List SettingsObject := []
  cached : Option Nat := none
  current : Option Nat := none
  lastGot : Option Nat := none

namespace SettingsStore

/-- Changes the environment, as far as the changes can be made. -/
def changeEnvironment (store : SettingsStore) (changes : List (String × Value)) :
    Except Failure Unit × SettingsStore :=
  let (outcome, environment) := store.environment.change changes
  (outcome, { store with environment })

/-- Keeps a new object, which gets the next number. -/
def add (store : SettingsStore) (object : SettingsObject) : SettingsStore :=
  { store with objects := store.objects ++ [object] }

/-- The object of a number. -/
def object? (store : SettingsStore) (id : Nat) : Option SettingsObject :=
  store.objects[id]?

/-- Makes settings from the environment and keyword arguments; they become the current ones. -/
def make (store : SettingsStore) (arguments : Assoc Value) :
    Except Failure SettingsObject × SettingsStore :=
  match Settings.construct store.machine store.environment arguments with
  | .error failure => (.error failure, store)
  | .ok settings =>
      let object := SettingsObject.ofSettings settings
      (.ok object, { store.add object with current := some store.objects.length })

/-- The cached settings; made from the environment and cached if there are none. -/
def fetch (store : SettingsStore) : Except Failure (Nat × SettingsObject) × SettingsStore :=
  match store.cached.bind fun id => (store.object? id).map (id, ·) with
  | some found => (.ok found, store)
  | none =>
      match Settings.construct store.machine store.environment [] with
      | .error failure => (.error failure, store)
      | .ok settings =>
          let id := store.objects.length
          let object := SettingsObject.ofSettings settings
          (.ok (id, object), { store.add object with cached := some id })

/-- Fetches the settings and makes them the current ones; whether they are the object that was
got last. -/
def get (store : SettingsStore) : Except Failure (SettingsObject × Bool) × SettingsStore :=
  match store.fetch with
  | (.error failure, after) => (.error failure, after)
  | (.ok (id, object), after) =>
      (.ok (object, store.lastGot == some id),
        { after with current := some id, lastGot := some id })

/-- Empties the cache. -/
def clear (store : SettingsStore) : SettingsStore :=
  { store with cached := none, lastGot := none }

/-- The current object. -/
def current? (store : SettingsStore) : Option SettingsObject := store.current.bind store.object?

/-- Assigns to a name of the current object, and the object then; none if there is none. An
assignment that fails may still have changed the object. -/
def assign (store : SettingsStore) (name : String) (value : Value) :
    Option (Except Failure SettingsObject × SettingsStore) :=
  store.current.bind fun id => (store.object? id).map fun object =>
    let (outcome, changed) := object.assign name value
    (outcome.map fun () => changed, { store with objects := store.objects.set id changed })

end SettingsStore

end GrantedRoles
