import GrantedRoles.Process
import GrantedRoles.Proofs.Session.Steps
import GrantedRoles.Proofs.Traces

/-!
# The cached settings of a process

Settings are read from the environment when they are fetched for the first time, and from then on
every fetch gives the identical object, until the cache is cleared; only assignments to that object
change what it holds. A fetch that fails leaves nothing behind. `settings_cache` says this of every
run, in which the environment changes and other settings are made at any time.
-/

set_option autoImplicit false

namespace GrantedRoles

/-! ## Steps that concern the cache -/

namespace ProcessStep

/-- The step asks for the cached settings: the caller gets them, or it has a populator created
without any, over a gateway that can be made or over none. -/
def Fetches : ProcessStep → Prop
  | .get => True
  | .session s => ∃ offer hooks supplied, s.action = .create none offer hooks ∧
      offer.mapM GatewayOffer.accept = .ok supplied
  | _ => False

/-- The step empties the cache. -/
def Clears : ProcessStep → Prop
  | .session s => s.action = .clearSettings
  | _ => False

theorem Fetches.not_clears {s : ProcessStep} (h : s.Fetches) : ¬ s.Clears := by
  cases s with
  | session s =>
    obtain ⟨offer, hooks, supplied, haction, -⟩ := h
    intro hclears
    cases haction.symm.trans hclears
  | get => exact id
  | _ => exact fun hclears => hclears

end ProcessStep

namespace SettingsObject

/-- The object after assignments, each of which may be refused. -/
def assignAll (object : SettingsObject) (assignments : List (String × Value)) : SettingsObject :=
  assignments.foldl (fun changed one => (changed.assign one.1 one.2).2) object

theorem assignAll_append (object : SettingsObject) (assignments more : List (String × Value)) :
    object.assignAll (assignments ++ more) = (object.assignAll assignments).assignAll more :=
  List.foldl_append

end SettingsObject

/-! ## Fetching -/

namespace SettingsStore

/-- The cache holds the object of this number. -/
structure Caches (store : SettingsStore) (id : Nat) (object : SettingsObject) : Prop where
  cached : store.cached = some id
  object : store.object? id = some object

theorem Caches.fetch_eq {store : SettingsStore} {id : Nat} {object : SettingsObject}
    (h : store.Caches id object) : store.fetch = (.ok (id, object), store) := by
  unfold fetch
  rw [h.cached, Option.bind_some, h.object]
  rfl

/-- What the first fetch comes to: an object with the settings of the environment, with the next
number, which is then cached; or their failure, and nothing changes. -/
def firstFetch (store : SettingsStore) : Except Failure (Nat × SettingsObject) × SettingsStore :=
  match Settings.construct store.machine store.environment [] with
  | .error failure => (.error failure, store)
  | .ok settings =>
      (.ok (store.objects.length, .ofSettings settings),
        { store.add (.ofSettings settings) with cached := some store.objects.length })

theorem fetch_of_not_cached {store : SettingsStore} (h : store.cached = none) :
    store.fetch = store.firstFetch := by
  unfold fetch firstFetch
  rw [h]
  rfl

/-- The first fetch makes an object, or it fails as the settings do. -/
theorem firstFetch_eq_ok {store : SettingsStore} {found : Nat × SettingsObject}
    (h : store.firstFetch.1 = .ok found) :
    ∃ settings, Settings.construct store.machine store.environment [] = .ok settings ∧
      found = (store.objects.length, .ofSettings settings) := by
  unfold firstFetch at h
  cases hsettings : Settings.construct store.machine store.environment [] with
  | error failure =>
    rw [hsettings] at h
    cases h
  | ok settings =>
    rw [hsettings] at h
    cases h
    exact ⟨settings, rfl, rfl⟩

/-- What was fetched is cached. -/
theorem caches_of_fetch {store after : SettingsStore} {id : Nat} {object : SettingsObject}
    (h : store.fetch = (.ok (id, object), after)) : after.Caches id object := by
  unfold fetch at h
  split at h
  · next found hfound =>
    cases h
    obtain ⟨cached, hcached, hobject⟩ := Option.bind_eq_some_iff.1 hfound
    obtain ⟨held, hheld, hpair⟩ := Option.map_eq_some_iff.1 hobject
    cases hpair
    exact ⟨hcached, hheld⟩
  · split at h
    · cases h
    · cases h
      exact ⟨rfl, by simp [object?, add]⟩

/-- A failed fetch changes nothing. -/
theorem fetch_of_error {store : SettingsStore} {failure : Failure}
    (h : store.fetch.1 = .error failure) : store.fetch.2 = store := by
  unfold fetch at h ⊢
  split
  · rfl
  · split
    · rfl
    · next hnone _ settings hsettings =>
      rw [hnone] at h
      simp only [hsettings] at h
      cases h

/-- What is cached stays so when another object is made. -/
theorem Caches.make {store : SettingsStore} {id : Nat} {object : SettingsObject}
    (h : store.Caches id object) (arguments : Assoc Value) :
    (store.make arguments).2.Caches id object := by
  unfold SettingsStore.make
  cases Settings.construct store.machine store.environment arguments with
  | error failure => exact h
  | ok settings =>
    refine ⟨h.cached, ?_⟩
    have hheld : store.objects[id]? = some object := h.object
    simp only [object?, add]
    rw [List.getElem?_append_left (List.getElem?_eq_some_iff.1 hheld).1]
    exact hheld

/-- Nor does another object change what the first fetch would make. -/
theorem fetch_make {store : SettingsStore} (h : store.cached = none) (arguments : Assoc Value) :
    (store.make arguments).2.fetch.1.map Prod.snd = store.fetch.1.map Prod.snd := by
  have hmade : (store.make arguments).2.cached = none ∧
      (store.make arguments).2.machine = store.machine ∧
      (store.make arguments).2.environment = store.environment := by
    unfold SettingsStore.make
    cases Settings.construct store.machine store.environment arguments <;> exact ⟨h, rfl, rfl⟩
  rw [fetch_of_not_cached h, fetch_of_not_cached hmade.1]
  unfold firstFetch
  rw [hmade.2.1, hmade.2.2]
  cases Settings.construct store.machine store.environment [] <;> rfl

/-- An assignment changes the cached object if that is the current one. -/
theorem Caches.assign {store after : SettingsStore} {id : Nat} {object : SettingsObject}
    (h : store.Caches id object) {name : String} {value : Value}
    {outcome : Except Failure SettingsObject}
    (hassign : store.assign name value = some (outcome, after)) :
    after.Caches id (if store.current = some id then (object.assign name value).2 else object) := by
  obtain ⟨current, hcurrent, hassigned⟩ := Option.bind_eq_some_iff.1 hassign
  obtain ⟨held, hheld, hpair⟩ := Option.map_eq_some_iff.1 hassigned
  cases hpair
  refine ⟨h.cached, ?_⟩
  have hobject : store.objects[id]? = some object := h.object
  -- The object at the number is replaced if that is the current one, and read back otherwise.
  have hset : (store.objects.set current (held.assign name value).2)[id]?
      = some (if store.current = some id then (object.assign name value).2 else object) := by
    rw [hcurrent, List.getElem?_set]
    by_cases hid : current = id
    · subst hid
      cases h.object.symm.trans hheld
      simp [(List.getElem?_eq_some_iff.1 hobject).1]
    · simp [hid, hobject]
  exact hset

/-- The number of the cached object is taken. -/
theorem Caches.lt {store : SettingsStore} {id : Nat} {object : SettingsObject}
    (h : store.Caches id object) : id < store.objects.length :=
  (List.getElem?_eq_some_iff.1 h.object).1

/-- Objects are never given up. -/
theorem length_fetch_le (store : SettingsStore) :
    store.objects.length ≤ store.fetch.2.objects.length := by
  unfold fetch
  split
  · exact Nat.le_refl _
  · split
    · exact Nat.le_refl _
    · simp [add]

theorem lastGot_fetch (store : SettingsStore) : store.fetch.2.lastGot = store.lastGot := by
  unfold fetch
  split
  · rfl
  · split
    · rfl
    · rfl

theorem get_eq (store : SettingsStore) :
    store.get.1 = store.fetch.1.map fun found => (found.2, store.lastGot == some found.1) := by
  unfold get
  cases store.fetch with
  | mk outcome after => cases outcome <;> rfl

theorem get_of_ok {store after : SettingsStore} {found : Nat × SettingsObject}
    (h : store.fetch = (.ok found, after)) :
    store.get.2 = { after with current := some found.1, lastGot := some found.1 } := by
  unfold get
  rw [h]

theorem get_of_error {store : SettingsStore} {failure : Failure}
    (h : store.fetch.1 = .error failure) : store.get.2 = store := by
  have hkept := fetch_of_error h
  unfold get
  cases hfetch : store.fetch with
  | mk outcome after =>
    rw [hfetch] at h hkept
    cases h
    exact hkept

end SettingsStore

/-! ## What steps do to the settings of a process -/

/-- A step takes the settings of a process from one state to another. -/
inductive StoreStep (store : SettingsStore) : ProcessStep → SettingsStore → Prop
  | clear {s : SessionStep} (h : s.action = .clearSettings) :
      StoreStep store (.session s) store.clear
  | fetch {s : SessionStep} (h : (ProcessStep.session s).Fetches) :
      StoreStep store (.session s) store.fetch.2
  | pass {s : SessionStep} (hclears : s.action ≠ .clearSettings)
      (hfetches : ¬ (ProcessStep.session s).Fetches) (environment : Environment) :
      StoreStep store (.session s) { store with environment }
  | make (arguments : Assoc Value) : StoreStep store (.make arguments) (store.make arguments).2
  | get : StoreStep store .get store.get.2
  | assign {name : String} {value : Value} {outcome : Except Failure SettingsObject}
      {after : SettingsStore} (h : store.assign name value = some (outcome, after)) :
      StoreStep store (.assign name value) after
  | noObject {name : String} {value : Value} (h : store.assign name value = none) :
      StoreStep store (.assign name value) store

namespace Session

theorem store_perform {α : Type} (session : Session) (action : Action α)
    {answer : α → Session → Answer × Session}
    (h : ∀ a next, (answer a next).2.store = next.store) :
    (session.perform action answer).2.2.2.store = session.store :=
  perform_keeps session action (fun _ => rfl) h

/-- With settings, a populator is created without a look at those of the process. -/
theorem store_create_some (session : Session) (arguments : Assoc Value)
    (offer : Option GatewayOffer) (hooks : Hooks) :
    (session.create (some arguments) offer hooks).2.2.2.store = session.store := by
  unfold create
  simp only [givenSettings]
  cases Settings.construct session.store.machine session.store.environment arguments with
  | error failure => rfl
  | ok settings =>
    cases offer.mapM GatewayOffer.accept with
    | error failure => simp only [Except.map]
    | ok supplied =>
      simp only [Except.map, settingsOr]
      exact store_perform _ _ fun _ _ => rfl

/-- Without settings, a populator is created of those that the store fetches. -/
theorem create_none (session : Session) {offer : Option GatewayOffer} (hooks : Hooks)
    {supplied : Option GatewayChoice} (hoffer : offer.mapM GatewayOffer.accept = .ok supplied) :
    (session.create none offer hooks).2.2.2.store = session.store.fetch.2 ∧
      (session.create none offer hooks).1
        = match session.store.fetch.1.bind fun found => found.2.settings with
          | .error failure => .failed failure
          | .ok settings =>
              .ofCreation ((Populator.create settings supplied hooks).run session.ambient).1 := by
  unfold create
  simp only [givenSettings, settingsOr, hoffer]
  cases hfetched : session.store.fetch.1.bind fun found => found.2.settings with
  | error failure => exact ⟨rfl, rfl⟩
  | ok settings =>
    refine ⟨store_perform _ _ fun _ _ => rfl, ?_⟩
    simp only [perform, ambient]
    cases ((Populator.create settings supplied hooks).run
      { context := session.context, logging := session.logging }).1 <;> rfl

/-- Only the cache is cleared or asked; other actions change the environment at most. -/
theorem exists_environment_of_act (session : Session) {action : SessionAction}
    (hclears : action ≠ .clearSettings)
    (hfetches : ∀ offer hooks supplied, action = .create none offer hooks →
      offer.mapM GatewayOffer.accept ≠ .ok supplied) :
    ∃ environment, (session.act action).2.2.2.store = { session.store with environment } := by
  cases action with
  | clearSettings => exact absurd rfl hclears
  | changeEnvironment changes => exact ⟨_, rfl⟩
  | create arguments offer hooks =>
    cases arguments with
    | some arguments => exact ⟨_, store_create_some session arguments offer hooks⟩
    | none =>
      -- Without arguments the settings are fetched unless the gateway is refused first.
      cases hoffer : offer.mapM GatewayOffer.accept with
      | ok supplied => exact absurd hoffer (hfetches offer hooks supplied rfl)
      | error failure =>
        refine ⟨session.store.environment, ?_⟩
        simp only [act, create, givenSettings, hoffer]
  | resolve user =>
    simp only [act]
    cases session.populator with
    | none => exact ⟨_, rfl⟩
    | some populator => exact ⟨_, store_perform _ _ fun _ _ => rfl⟩
  | configure service level => exact ⟨_, store_perform _ _ fun _ _ => rfl⟩
  | makeLogger handle name => exact ⟨_, rfl⟩
  | log handle method event fields =>
    simp only [act]
    cases session.handles.get? handle with
    | none => exact ⟨_, rfl⟩
    | some name => exact ⟨_, store_perform _ _ fun _ _ => rfl⟩
  | bindUser dn username => exact ⟨_, rfl⟩
  | unbindUser failure =>
    simp only [act]
    cases session.frames with
    | nil => exact ⟨_, rfl⟩
    | cons frame outer => exact ⟨_, rfl⟩
  | bindContext fields => exact ⟨_, rfl⟩
  | openConnections arguments count =>
    simp only [act]
    cases Settings.construct session.store.machine session.store.environment arguments with
    | error failure => exact ⟨_, rfl⟩
    | ok settings => exact ⟨_, store_perform _ _ fun _ _ => rfl⟩

theorem step_storeStep (session : Session) (s : SessionStep) :
    StoreStep session.store (.session s) (session.step s).2.store := by
  obtain ⟨action, connection⟩ := s
  by_cases hclears : action = .clearSettings
  · subst hclears
    exact .clear rfl
  -- The connection of a step is chosen before its action; it does not touch the settings.
  · by_cases hfetches : (ProcessStep.session ⟨action, connection⟩).Fetches
    · obtain ⟨offer, hooks, supplied, haction, hoffer⟩ := hfetches
      have hfetch : StoreStep session.store (.session ⟨action, connection⟩) session.store.fetch.2 :=
        .fetch ⟨offer, hooks, supplied, haction, hoffer⟩
      subst haction
      rw [← (create_none { session with connection := connection.getD session.connection } hooks
        hoffer).1] at hfetch
      exact hfetch
    · obtain ⟨environment, hact⟩ :=
        exists_environment_of_act { session with connection := connection.getD session.connection }
          hclears fun offer hooks supplied haction hoffer =>
            hfetches ⟨offer, hooks, supplied, haction, hoffer⟩
      have hpass : StoreStep session.store (.session ⟨action, connection⟩) _ :=
        .pass hclears hfetches environment
      rw [← hact] at hpass
      exact hpass

/-- Rewiring is about the populator. -/
theorem store_rewire (session : Session) : session.rewire.store = session.store := by
  unfold rewire
  cases session.source.bind session.store.object? <;> rfl

theorem proceed_storeStep (session : Session) (s : ProcessStep) :
    StoreStep session.store s (session.proceed s).2.store := by
  cases s with
  | session s => exact session.step_storeStep s
  | make arguments => exact .make arguments
  | get => exact .get
  | assign name value =>
    simp only [proceed]
    cases hassign : session.store.assign name value with
    | none => exact .noObject hassign
    | some assigned =>
      simp only [store_rewire]
      exact .assign hassign

end Session

/-! ## What a step does to the cache -/

/-- The assignments of a step to the settings of this number: they must be the current ones. -/
def ProcessStep.assignments (store : SettingsStore) (id : Nat) :
    ProcessStep → List (String × Value)
  | .assign name value => if store.current = some id then [(name, value)] else []
  | _ => []

namespace StoreStep

variable {store after : SettingsStore} {s : ProcessStep}

/-- Clearing empties the cache, and nothing else. -/
theorem of_clears (h : StoreStep store s after) (hs : s.Clears) : after = store.clear := by
  cases h with
  | clear hclear => rfl
  | fetch hfetches => exact absurd hs hfetches.not_clears
  | pass hclears hfetches environment => exact absurd hs hclears
  | make arguments => exact absurd hs id
  | get => exact absurd hs id
  | assign hassign => exact absurd hs id
  | noObject hnone => exact absurd hs id

/-- Fetching says which objects there are and which one is cached. -/
theorem of_fetches (h : StoreStep store s after) (hs : s.Fetches) :
    after.objects = store.fetch.2.objects ∧ after.cached = store.fetch.2.cached := by
  cases h with
  | clear hclear => exact absurd hclear hs.not_clears
  | fetch hfetches => exact ⟨rfl, rfl⟩
  | pass hclears hfetches environment => exact absurd hs hfetches
  | make arguments => exact absurd hs id
  | get =>
    cases hfetch : store.fetch.1 with
    | error failure =>
      rw [store.get_of_error hfetch, SettingsStore.fetch_of_error hfetch]
      exact ⟨rfl, rfl⟩
    | ok found =>
      rw [store.get_of_ok (Prod.ext hfetch rfl)]
      exact ⟨rfl, rfl⟩
  | assign hassign => exact absurd hs id
  | noObject hnone => exact absurd hs id

/-- Any other step leaves the cache, and gives up no object. -/
theorem of_others (h : StoreStep store s after) (hclears : ¬ s.Clears) (hfetches : ¬ s.Fetches) :
    after.cached = store.cached ∧ store.objects.length ≤ after.objects.length := by
  cases h with
  | clear hclear => exact absurd hclear hclears
  | fetch hfetch => exact absurd hfetch hfetches
  | pass _ _ environment => exact ⟨rfl, Nat.le_refl _⟩
  | make arguments =>
    unfold SettingsStore.make
    cases Settings.construct store.machine store.environment arguments with
    | error failure => exact ⟨rfl, Nat.le_refl _⟩
    | ok settings => exact ⟨rfl, by simp [SettingsStore.add]⟩
  | get => exact absurd trivial hfetches
  | assign hassign =>
    obtain ⟨current, -, hassigned⟩ := Option.bind_eq_some_iff.1 hassign
    obtain ⟨held, -, hpair⟩ := Option.map_eq_some_iff.1 hassigned
    cases hpair
    exact ⟨rfl, by simp⟩
  | noObject hnone => exact ⟨rfl, Nat.le_refl _⟩

/-- What was got last is known until another is got or the cache is cleared. -/
theorem lastGot_eq (h : StoreStep store s after) (hclears : ¬ s.Clears)
    (hgets : s = .get → ∀ found, store.fetch.1 ≠ .ok found) : after.lastGot = store.lastGot := by
  cases h with
  | clear hclear => exact absurd hclear hclears
  | fetch hfetches => exact store.lastGot_fetch
  | pass _ _ environment => rfl
  | make arguments =>
    unfold SettingsStore.make
    cases Settings.construct store.machine store.environment arguments <;> rfl
  | get =>
    cases hfetch : store.fetch.1 with
    | error failure => rw [store.get_of_error hfetch]
    | ok found => exact absurd hfetch (hgets rfl found)
  | assign hassign =>
    obtain ⟨current, -, hassigned⟩ := Option.bind_eq_some_iff.1 hassign
    obtain ⟨held, -, hpair⟩ := Option.map_eq_some_iff.1 hassigned
    cases hpair
    rfl
  | noObject hnone => rfl

/-- Objects are never given up. -/
theorem length_le (h : StoreStep store s after) :
    store.objects.length ≤ after.objects.length := by
  by_cases hclears : s.Clears
  · rw [h.of_clears hclears]
    exact Nat.le_refl _
  · by_cases hfetches : s.Fetches
    · rw [(h.of_fetches hfetches).1]
      exact store.length_fetch_le
    · exact (h.of_others hclears hfetches).2

/-- Only what is fetched is cached. -/
theorem cached_of_none (h : StoreStep store s after) (hnone : store.cached = none)
    (hs : s.Fetches → ∀ found, store.fetch.1 ≠ .ok found) : after.cached = none := by
  by_cases hclears : s.Clears
  · rw [h.of_clears hclears]
    rfl
  · by_cases hfetches : s.Fetches
    · cases hfetch : store.fetch.1 with
      | error failure =>
        rw [(h.of_fetches hfetches).2, SettingsStore.fetch_of_error hfetch]
        exact hnone
      | ok found => exact absurd hfetch (hs hfetches found)
    · rw [(h.of_others hclears hfetches).1]
      exact hnone

/-- What a step fetches is cached. -/
theorem caches_of_fetches {found : Nat × SettingsObject} (h : StoreStep store s after)
    (hs : s.Fetches) (hfetch : store.fetch.1 = .ok found) : after.Caches found.1 found.2 := by
  obtain ⟨hobjects, hcached⟩ := h.of_fetches hs
  have hfetched : store.fetch = (.ok found, store.fetch.2) := Prod.ext hfetch rfl
  have hcaches := SettingsStore.caches_of_fetch hfetched
  refine ⟨hcached.trans hcaches.cached, ?_⟩
  rw [SettingsStore.object?, hobjects]
  exact hcaches.object

/-- The cache keeps its object until it is cleared. -/
theorem caches {id : Nat} {object : SettingsObject} (h : StoreStep store s after)
    (hcaches : store.Caches id object) (hs : ¬ s.Clears) :
    after.Caches id (object.assignAll (s.assignments store id)) := by
  by_cases hfetches : s.Fetches
  · -- A step that fetches assigns nothing, and gets what is cached already.
    have hnone : s.assignments store id = [] := by
      cases s with
      | assign name value => exact absurd hfetches (fun none => none)
      | _ => rfl
    rw [hnone]
    exact h.caches_of_fetches hfetches (congrArg Prod.fst hcaches.fetch_eq)
  · cases h with
    | clear hclear => exact absurd hclear hs
    | fetch hfetch => exact absurd hfetch hfetches
    | pass _ _ environment => exact ⟨hcaches.cached, hcaches.object⟩
    | make arguments => exact hcaches.make arguments
    | get => exact absurd trivial hfetches
    | assign hassign =>
      have hassigned := hcaches.assign hassign
      simp only [ProcessStep.assignments]
      split
      · next hcurrent =>
        rw [if_pos hcurrent] at hassigned
        exact hassigned
      · next hcurrent =>
        rw [if_neg hcurrent] at hassigned
        exact hassigned
    | noObject hnone =>
      -- The cached object exists, so that an assignment to nothing is not one to it.
      have hother : store.current ≠ some id := by
        intro hcurrent
        simp [SettingsStore.assign, hcurrent, hcaches.object] at hnone
      simp only [ProcessStep.assignments, if_neg hother]
      exact hcaches

end StoreStep

/-! ## Runs -/

namespace Session

/-- The step fetches the settings of the process, and gets them. -/
def Obtains (start : Session) (before : List ProcessStep) (s : ProcessStep) : Prop :=
  s.Fetches ∧ ∃ found, (start.proceedAll before).2.store.fetch.1 = .ok found

/-- The caller gets the settings of the process. -/
def Gets (start : Session) (before : List ProcessStep) (s : ProcessStep) : Prop :=
  s = .get ∧ start.Obtains before s

/-- The assignments of a run to the settings of this number, each made while they were the current
ones. -/
def assignments (session : Session) (id : Nat) : List ProcessStep → List (String × Value)
  | [] => []
  | s :: rest =>
      s.assignments session.store id ++ (session.proceed s).2.assignments id rest

theorem proceedAll_append (session : Session) (earlier later : List ProcessStep) :
    (session.proceedAll (earlier ++ later)).2
      = ((session.proceedAll earlier).2.proceedAll later).2 := by
  induction earlier generalizing session with
  | nil => rfl
  | cons s rest ih => exact ih _

theorem proceedAll_concat (session : Session) (steps : List ProcessStep) (s : ProcessStep) :
    (session.proceedAll (steps ++ [s])).2 = ((session.proceedAll steps).2.proceed s).2 :=
  session.proceedAll_append steps [s]

theorem length_le_proceedAll (session : Session) (steps : List ProcessStep) :
    session.store.objects.length ≤ (session.proceedAll steps).2.store.objects.length := by
  induction steps generalizing session with
  | nil => exact Nat.le_refl _
  | cons s rest ih => exact Nat.le_trans (session.proceed_storeStep s).length_le (ih _)

/-- A run that does not clear the cache keeps the cached object, with the assignments to it. -/
theorem caches_proceedAll {session : Session} {id : Nat} {object : SettingsObject}
    {steps : List ProcessStep} (h : session.store.Caches id object)
    (hsteps : ∀ s ∈ steps, ¬ s.Clears) :
    (session.proceedAll steps).2.store.Caches id
      (object.assignAll (session.assignments id steps)) := by
  induction steps generalizing session object with
  | nil => exact h
  | cons s rest ih =>
    rw [List.forall_mem_cons] at hsteps
    have hstep := (session.proceed_storeStep s).caches h hsteps.1
    rw [assignments, SettingsObject.assignAll_append]
    exact ih hstep hsteps.2

section Fresh

variable {start : Session}

/-- Nothing is cached if nothing was obtained since the cache was cleared. -/
theorem cached_of_not_since (hstart : start.store.cached = none) {steps : List ProcessStep}
    (h : ¬ Since start.Obtains ProcessStep.Clears steps) :
    (start.proceedAll steps).2.store.cached = none := by
  -- From the end: whether anything was obtained since is a matter of the last step and those before.
  induction steps using List.reverseRecOn with
  | nil => exact hstart
  | append_singleton steps s ih =>
    rw [since_concat, not_or] at h
    have hstep := (start.proceedAll steps).2.proceed_storeStep s
    rw [proceedAll_concat]
    by_cases hclears : s.Clears
    · rw [hstep.of_clears hclears]
      rfl
    · have hbefore := ih fun hsince => h.2 ⟨hsince, hclears⟩
      exact hstep.cached_of_none hbefore fun hfetches found hfetch => h.1 ⟨hfetches, found, hfetch⟩

/-- What was obtained first is cached until the cache is cleared. -/
theorem caches_of_first (hstart : start.store.cached = none) {steps before since : List ProcessStep}
    {s : ProcessStep} (h : First start.Obtains ProcessStep.Clears steps before s since) :
    let made := (start.proceedAll before).2.store
    ∃ settings, Settings.construct made.machine made.environment [] = .ok settings ∧
      (start.proceedAll steps).2.store.Caches made.objects.length
        ((SettingsObject.ofSettings settings).assignAll
          ((start.proceedAll (before ++ [s])).2.assignments made.objects.length since)) := by
  intro made
  obtain ⟨hfetches, found, hfound⟩ := h.happened
  have hfirst := SettingsStore.fetch_of_not_cached (cached_of_not_since hstart h.first)
  have made_step := (start.proceedAll before).2.proceed_storeStep
  -- Before the step nothing was obtained, so that it found what a first fetch finds.
  rw [hfirst] at hfound
  obtain ⟨settings, hsettings, rfl⟩ := SettingsStore.firstFetch_eq_ok hfound
  rw [← hfirst] at hfound
  have hcaches := (made_step s).caches_of_fetches hfetches hfound
  refine ⟨settings, hsettings, ?_⟩
  rw [h.split, List.append_cons, proceedAll_append]
  rw [← proceedAll_concat] at hcaches
  exact caches_proceedAll hcaches h.kept

/-- What a run obtained has a lower number than what is made later. -/
theorem lt_of_obtains {before since : List ProcessStep} {s : ProcessStep}
    {found : Nat × SettingsObject} (hs : s.Fetches)
    (hfound : (start.proceedAll before).2.store.fetch.1 = .ok found) :
    found.1 < (start.proceedAll (before ++ s :: since)).2.store.objects.length := by
  have hcaches := ((start.proceedAll before).2.proceed_storeStep s).caches_of_fetches hs hfound
  rw [List.append_cons, proceedAll_append, proceedAll_concat]
  exact Nat.lt_of_lt_of_le hcaches.lt (length_le_proceedAll _ since)

/-- The settings that the caller got since the cache was cleared are the cached ones. -/
theorem lastGot_iff (hstart : start.store.lastGot = none) (steps : List ProcessStep) :
    (¬ Since start.Gets ProcessStep.Clears steps →
      (start.proceedAll steps).2.store.lastGot = none) ∧
      (Since start.Gets ProcessStep.Clears steps →
        ∃ id object, (start.proceedAll steps).2.store.lastGot = some id ∧
          (start.proceedAll steps).2.store.Caches id object) := by
  induction steps using List.reverseRecOn with
  | nil => exact ⟨fun _ => hstart, fun hsince => absurd hsince not_since_nil⟩
  | append_singleton steps s ih =>
    have hstep := (start.proceedAll steps).2.proceed_storeStep s
    rw [since_concat, proceedAll_concat]
    -- Getting the settings makes them the last ones got, clearing forgets them, and any other step keeps
    -- both them and the cache.
    by_cases hgets : start.Gets steps s
    · refine ⟨fun hnone => absurd (Or.inl hgets) hnone, fun _ => ?_⟩
      obtain ⟨rfl, hfetches, found, hfound⟩ := hgets
      have hgot : ((start.proceedAll steps).2.proceed .get).2.store.lastGot = some found.1 := by
        change (start.proceedAll steps).2.store.get.2.lastGot = some found.1
        rw [SettingsStore.get_of_ok (Prod.ext hfound rfl)]
      exact ⟨found.1, found.2, hgot, hstep.caches_of_fetches hfetches hfound⟩
    · by_cases hclears : s.Clears
      · rw [hstep.of_clears hclears]
        refine ⟨fun _ => rfl, ?_⟩
        rintro (hlast | ⟨-, hkept⟩)
        · exact absurd hlast hgets
        · exact absurd hclears hkept
      · have hkept := hstep.lastGot_eq hclears fun hget found hfound =>
          hgets ⟨hget, hget ▸ trivial, found, hfound⟩
        rw [hkept]
        refine ⟨fun hnone => ih.1 fun hsince => hnone (Or.inr ⟨hsince, hclears⟩), ?_⟩
        rintro (hlast | ⟨hsince, -⟩)
        · exact absurd hlast hgets
        · obtain ⟨id, object, hgot, hcaches⟩ := ih.2 hsince
          exact ⟨id, _, hgot, hstep.caches hcaches hclears⟩

end Fresh

/-- **The cached settings of a process.** In every run that starts with an empty cache: if nothing
was obtained since the cache was cleared, a fetch reads the environment of that moment, and makes a
new object or fails and caches nothing. Otherwise it gives the object that was made by the first
fetch since then, with what the environment held at that moment, changed by the assignments that
were made while it was the current one and by nothing else. Making settings never changes what a
fetch gives. The caller is told whether it got the same object since the cache was cleared, and a
populator that is created without settings has the fetched ones. -/
theorem settings_cache {start : Session} (hcached : start.store.cached = none)
    (hgot : start.store.lastGot = none) (steps : List ProcessStep) :
    let session := (start.proceedAll steps).2
    let store := session.store
    (¬ Since start.Obtains ProcessStep.Clears steps →
      store.fetch = store.firstFetch ∧
        ∀ before s since old, steps = before ++ s :: since → s.Fetches →
          (start.proceedAll before).2.store.fetch.1 = .ok old → old.1 < store.objects.length) ∧
      (Since start.Obtains ProcessStep.Clears steps →
        ∃ before s since, First start.Obtains ProcessStep.Clears steps before s since) ∧
      (∀ before s since, First start.Obtains ProcessStep.Clears steps before s since →
        let made := (start.proceedAll before).2.store
        let assigned := (start.proceedAll (before ++ [s])).2.assignments made.objects.length since
        ∃ settings, Settings.construct made.machine made.environment [] = .ok settings ∧
          store.fetch
            = (.ok (made.objects.length, (SettingsObject.ofSettings settings).assignAll assigned),
                store)) ∧
      (∀ arguments,
        (store.make arguments).2.fetch.1.map Prod.snd = store.fetch.1.map Prod.snd ∧
          (Since start.Obtains ProcessStep.Clears steps →
            (store.make arguments).2.fetch.1 = store.fetch.1)) ∧
      (∃ same : Bool, (session.proceed .get).1 = .got (store.fetch.1.map fun found =>
          (found.2, same)) ∧
        (same = true ↔ Since start.Gets ProcessStep.Clears steps)) ∧
      ∀ s offer hooks supplied, s.action = .create none offer hooks →
        offer.mapM GatewayOffer.accept = .ok supplied →
          (session.step s).2.store = store.fetch.2 ∧
            (session.step s).1.answer = match store.fetch.1.bind fun found => found.2.settings with
              | .error failure => .failed failure
              | .ok settings =>
                  .ofCreation ((Populator.create settings supplied hooks).run session.ambient).1 := by
  intro session store
  have hexists : Since start.Obtains ProcessStep.Clears steps →
      ∃ before s since, First start.Obtains ProcessStep.Clears steps before s since :=
    (since_iff_exists_first fun before s h => h.1.not_clears).1
  have hcaches : Since start.Obtains ProcessStep.Clears steps →
      ∃ id object, store.Caches id object := by
    intro hsince
    obtain ⟨before, s, since, hfirst⟩ := hexists hsince
    obtain ⟨settings, -, hheld⟩ := caches_of_first hcached hfirst
    exact ⟨_, _, hheld⟩
  refine ⟨?_, hexists, ?_, ?_, ?_, ?_⟩
  · intro hnone
    refine ⟨SettingsStore.fetch_of_not_cached (cached_of_not_since hcached hnone), ?_⟩
    rintro before s since old rfl hs hold
    exact lt_of_obtains hs hold
  · intro before s since hfirst
    obtain ⟨settings, hsettings, hheld⟩ := caches_of_first hcached hfirst
    exact ⟨settings, hsettings, hheld.fetch_eq⟩
  · intro arguments
    -- What is cached stays; if nothing is, the environment decides, which making settings does not
    -- change.
    by_cases hsince : Since start.Obtains ProcessStep.Clears steps
    · obtain ⟨id, object, hheld⟩ := hcaches hsince
      rw [hheld.fetch_eq, (hheld.make arguments).fetch_eq]
      exact ⟨rfl, fun _ => rfl⟩
    · have hnone := cached_of_not_since hcached hsince
      exact ⟨SettingsStore.fetch_make hnone arguments, fun h => absurd h hsince⟩
  · have hlast := lastGot_iff hgot steps
    have hreport : (session.proceed .get).1 = .got (store.fetch.1.map fun found =>
        (found.2, store.lastGot == some found.1)) := by
      rw [← store.get_eq]
      rfl
    by_cases hsince : Since start.Gets ProcessStep.Clears steps
    · obtain ⟨id, object, hid, hheld⟩ := hlast.2 hsince
      refine ⟨true, hreport.trans ?_, iff_of_true rfl hsince⟩
      simp [hheld.fetch_eq, hid, store, session, Except.map]
    · refine ⟨false, hreport.trans ?_, iff_of_false Bool.false_ne_true hsince⟩
      simp [hlast.1 hsince, store, session]
  · rintro ⟨action, connection⟩ offer hooks supplied rfl hoffer
    exact create_none { session with connection := connection.getD session.connection } hooks hoffer

/-- The settings are got, then the environment changes and the root is assigned: what is fetched
afterwards has the service name of the moment when the settings were got, and the assigned root. -/
theorem settings_cache_changed :
    let start : Session := {}
    let naming : ProcessStep :=
      .session { action := .changeEnvironment [("LDAP_AUTHZ_SERVICE_NAME", .text "later")] }
    let later : List ProcessStep := [naming, .assign "root_dn" (.text "dc=example")]
    let store := (start.proceedAll (.get :: later)).2.store
    start.store.cached = none ∧ start.store.lastGot = none ∧
      ∃ object, store.fetch = (.ok (0, object), store) ∧
        (object.read "service_name").toOption.bind Value.asText? = some "ldap-authorities" ∧
        (object.read "root_dn").toOption.bind Value.asText? = some "dc=example" := by
  intro start naming later store
  have hcached : start.store.cached = none := rfl
  have hgot : start.store.lastGot = none := rfl
  have hfirst : First start.Obtains ProcessStep.Clears (.get :: later) [] .get later := by
    refine ⟨rfl, ⟨trivial, ?_⟩, not_since_nil, ?_⟩
    · have hfound : start.store.fetch.1.toOption.isSome = true := by decide +kernel
      cases hfetch : start.store.fetch.1 with
      | error failure =>
        rw [hfetch] at hfound
        cases hfound
      | ok found => exact ⟨found, hfetch⟩
    · intro s hs
      simp only [later, naming, List.mem_cons, List.not_mem_nil, or_false] at hs
      rcases hs with rfl | rfl
      · exact fun hclears => by cases hclears
      · exact id
  obtain ⟨-, -, hheld, -⟩ := settings_cache hcached hgot (.get :: later)
  obtain ⟨settings, -, hfetch⟩ := hheld _ _ _ hfirst
  have hread : store.fetch.1.toOption.map (fun found =>
      ((found.2.read "service_name").toOption.bind Value.asText?,
        (found.2.read "root_dn").toOption.bind Value.asText?))
      = some (some "ldap-authorities", some "dc=example") := by
    decide +kernel
  refine ⟨hcached, hgot, _, hfetch, ?_⟩
  rw [hfetch] at hread
  simpa [Except.toOption] using hread

end Session

end GrantedRoles
