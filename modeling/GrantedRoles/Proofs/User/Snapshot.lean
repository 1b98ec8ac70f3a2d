import GrantedRoles.Hooks
import GrantedRoles.User.Source

/-!
# What a user keeps of its attributes

A user is made from a mapping and holds a copy of it, but the lists in the copy are those of the
mapping. Whatever is done to the data afterwards, the user's names, its mapping and the texts in it
stay; a list in it gains what is appended to it, and nothing else happens to it
(`user_afterAll`). So the user stays what it was exactly as long as no list that it holds is
appended to, be it through the mapping of the caller or through its own (`snapshot_kept_iff`).
-/

set_option autoImplicit false

namespace GrantedRoles

open Text

/-- Values with more of them at the end of a list. A text stays as it is. -/
def AttributeValues.extended (more : List String) : AttributeValues → AttributeValues
  | single s => single s
  | listed items => listed (items ++ more)

/-- Values with more of them are the same values if their items are. -/
theorem AttributeValues.extended_eq_self_iff {values : AttributeValues} {more : List String} :
    values.extended more = values ↔ (values.extended more).items = values.items := by
  cases values <;> simp [extended, items]

/-- The number of the list that is held. -/
def Holding.index? : Holding → Option Nat
  | single _ => none
  | shared index => some index

namespace SharedLists

variable {lists later : SharedLists} {mapping : Assoc Holding}

/-- The lists of a mapping are there. -/
def Has (lists : SharedLists) (mapping : Assoc Holding) : Prop :=
  ∀ entry ∈ mapping, ∀ index, entry.2 = .shared index → index < lists.length

theorem prefix_hold (lists : SharedLists) (values : AttributeValues) :
    lists <+: (lists.hold values).2 := by
  cases values with
  | single s => exact List.prefix_refl lists
  | listed items => exact List.prefix_append lists [items]

/-- A list keeps its items when others are made. -/
theorem getD_of_prefix (h : lists <+: later) {index : Nat} (hindex : index < lists.length) :
    later.getD index [] = lists.getD index [] := by
  obtain ⟨more, rfl⟩ := h
  rw [List.getD_eq_getElem?_getD, List.getElem?_append_left hindex, List.getD_eq_getElem?_getD]

/-- What is kept is read again, also when other lists are made. -/
theorem read_hold (lists : SharedLists) (values : AttributeValues)
    (h : (lists.hold values).2 <+: later) : later.read (lists.hold values).1 = values := by
  cases values with
  | single s => rfl
  | listed items =>
    have hindex : lists.length < (lists ++ [items]).length := by simp
    have hitems := getD_of_prefix h hindex
    simp only [hold, read, AttributeValues.listed.injEq]
    rw [hitems]
    simp [hold]

/-- A mapping that is kept is there, each list of it a list of its own, and reads as it was given.
-/
theorem holdAll_kept (lists : SharedLists) (given : Assoc AttributeValues) :
    lists <+: (lists.holdAll given).2 ∧ (lists.holdAll given).2.Has (lists.holdAll given).1 ∧
      (lists.holdAll given).2.readAll (lists.holdAll given).1 = given := by
  induction given generalizing lists with
  | nil => exact ⟨List.prefix_refl lists, by simp [Has, holdAll], rfl⟩
  | cons entry rest ih =>
    obtain ⟨name, values⟩ := entry
    -- The rest is kept where the values are there already.
    obtain ⟨hlater, hhas, hread⟩ := ih (lists.hold values).2
    refine ⟨(lists.prefix_hold values).trans hlater, List.forall_mem_cons.2 ⟨?_, hhas⟩, ?_⟩
    · intro index hindex
      refine Nat.lt_of_lt_of_le ?_ hlater.length_le
      cases values with
      | single s => cases hindex
      | listed items =>
        cases hindex
        simp [hold]
    · have hhead := congrArg (Prod.mk name) (read_hold lists values hlater)
      exact List.cons_eq_cons.2 ⟨hhead, hread⟩

/-- Appending to a list changes no other. -/
theorem getD_modify (lists : SharedLists) {index : Nat} (other : Nat) (value : String)
    (h : index < lists.length) :
    (lists.modify other (· ++ [value])).getD index []
      = lists.getD index [] ++ if other = index then [value] else [] := by
  simp only [List.getD_eq_getElem?_getD, List.getElem?_modify, List.getElem?_eq_getElem h]
  by_cases hother : other = index <;> simp [hother]

/-- What is held under a number is read alike as long as its list has the same items. -/
theorem read_eq_extended {holding : Holding} {more : List String}
    (h : ∀ index, holding = .shared index →
      later.getD index [] = lists.getD index [] ++ more) :
    later.read holding = (lists.read holding).extended more := by
  cases holding with
  | single s => rfl
  | shared index =>
    rw [read, read, h index rfl]
    rfl

/-- The items of what is held stay what they are if and only if it is no list that gains items. -/
theorem items_extended_eq_iff (lists : SharedLists) {holding : Holding}
    {more : Nat → List String} :
    ((lists.read holding).extended (holding.index?.elim [] more)).items
        = (lists.read holding).items ↔
      ∀ index, holding = .shared index → more index = [] := by
  cases holding with
  | single s => simp [read, AttributeValues.extended]
  | shared index =>
    simp [read, AttributeValues.extended, AttributeValues.items, Holding.index?]

end SharedLists

namespace SourcedUser

variable {s : SourcedUser}

/-! ## One action -/

/-- What appending under a name of a mapping adds to the list of a number: the value, if it is that
list which the mapping holds there. -/
def addedTo (index : Nat) (mapping : Assoc Holding) (name value : String) : List String :=
  if mapping.get? name = some (.shared index) then [value] else []

/-- What an action appends to the list of a number. -/
def appendedBy (s : SourcedUser) (index : Nat) : DataAction → List String
  | .appendSource name value => addedTo index s.source name value
  | .appendAttribute name value => addedTo index s.attributes name value
  | _ => []

/-- What appending makes of the data: one list may have one item more. -/
theorem appendHeld_cases (s : SourcedUser) (mapping : Assoc Holding) (name value : String) :
    (∃ other, mapping.get? name = some (.shared other) ∧ s.appendHeld mapping name value
        = .ok { s with lists := s.lists.modify other (· ++ [value]) }) ∨
      ((∀ other, mapping.get? name ≠ some (.shared other)) ∧
        ∃ failure, s.appendHeld mapping name value = .error failure) := by
  unfold appendHeld
  cases hheld : mapping.get? name with
  | none => exact Or.inr ⟨by simp, _, rfl⟩
  | some holding =>
    cases holding with
    | single text => exact Or.inr ⟨by simp, _, rfl⟩
    | shared other => exact Or.inl ⟨other, rfl, rfl⟩

/-- What an action leaves: the user's names and what its mapping holds, and all lists, each with
what the action appends to it. -/
structure Keeps (s next : SourcedUser) (added : Nat → List String) : Prop where
  dn : next.dn = s.dn
  username : next.username = s.username
  attributes : next.attributes = s.attributes
  length : s.lists.length ≤ next.lists.length
  items : ∀ index, index < s.lists.length →
    next.lists.getD index [] = s.lists.getD index [] ++ added index

theorem keeps_appendHeld (s : SourcedUser) (mapping : Assoc Holding) (name value : String) :
    s.Keeps ((s.appendHeld mapping name value).toOption.getD s)
      fun index => addedTo index mapping name value := by
  rcases s.appendHeld_cases mapping name value with
    ⟨other, hheld, hdone⟩ | ⟨hnone, failure, hrefused⟩
  · rw [hdone]
    refine ⟨rfl, rfl, rfl, by simp [Except.toOption], ?_⟩
    intro index hindex
    have hadded : addedTo index mapping name value = if other = index then [value] else [] := by
      simp [addedTo, hheld]
    rw [hadded]
    exact s.lists.getD_modify other value hindex
  · rw [hrefused]
    refine ⟨rfl, rfl, rfl, Nat.le_refl _, ?_⟩
    intro index _
    rw [addedTo, if_neg (hnone index), List.append_nil]
    rfl

theorem keeps_after (s : SourcedUser) (action : DataAction) :
    s.Keeps (s.after action) fun index => s.appendedBy index action := by
  have hnothing : s.Keeps s fun _ => [] :=
    ⟨rfl, rfl, rfl, Nat.le_refl _, fun _ _ => (List.append_nil _).symm⟩
  cases action with
  | changeSource name values =>
    have hprefix := s.lists.prefix_hold values
    refine ⟨rfl, rfl, rfl, hprefix.length_le, ?_⟩
    intro index hindex
    exact (SharedLists.getD_of_prefix hprefix hindex).trans (List.append_nil _).symm
  | shareSource name index => exact ⟨rfl, rfl, rfl, hnothing.length, hnothing.items⟩
  | appendSource name value => exact s.keeps_appendHeld s.source name value
  | appendAttribute name value => exact s.keeps_appendHeld s.attributes name value
  | assignAttribute name => exact hnothing
  | assignField field => exact hnothing

/-! ## Actions in order -/

/-- What actions append to the list of a number, in order. -/
def appended (s : SourcedUser) (index : Nat) : List DataAction → List String
  | [] => []
  | action :: rest => s.appendedBy index action ++ (s.after action).appended index rest

theorem keeps_afterAll (s : SourcedUser) (actions : List DataAction) :
    s.Keeps (s.afterAll actions) fun index => s.appended index actions := by
  induction actions generalizing s with
  | nil => exact ⟨rfl, rfl, rfl, Nat.le_refl _, fun _ _ => (List.append_nil _).symm⟩
  | cons action rest ih =>
    have hfirst := s.keeps_after action
    have hrest := ih (s.after action)
    refine ⟨hrest.dn.trans hfirst.dn, hrest.username.trans hfirst.username,
      hrest.attributes.trans hfirst.attributes, Nat.le_trans hfirst.length hrest.length, ?_⟩
    intro index hindex
    -- The list is there before the rest, which appends to it after the first action has.
    have hitems := hrest.items index (Nat.lt_of_lt_of_le hindex hfirst.length)
    rw [hfirst.items index hindex, List.append_assoc] at hitems
    exact hitems

/-- The user after actions: each list in its mapping with what they appended to it. -/
theorem user_afterAll (h : s.lists.Has s.attributes) (actions : List DataAction) :
    (s.afterAll actions).user
      = { s.user with
          attributes := s.attributes.map fun entry => (entry.1, (s.lists.read entry.2).extended
            (entry.2.index?.elim [] fun index => s.appended index actions)) } := by
  have hkeeps := s.keeps_afterAll actions
  have hattributes : (s.afterAll actions).lists.readAll (s.afterAll actions).attributes
      = s.attributes.map fun entry => (entry.1, (s.lists.read entry.2).extended
          (entry.2.index?.elim [] fun index => s.appended index actions)) := by
    rw [hkeeps.attributes]
    refine List.map_congr_left ?_
    intro entry hentry
    refine congrArg (Prod.mk entry.1) (SharedLists.read_eq_extended ?_)
    intro index hindex
    rw [hindex]
    exact hkeeps.items index (h entry hentry index hindex)
  simp only [user, hkeeps.dn, hkeeps.username, hattributes]

/-- A lookup without regard to case finds the first entry of a mapping whose name fits. -/
theorem attributeValues_map (dn username : String) (mapping : Assoc Holding)
    (values : Holding → AttributeValues) (name : String) :
    User.attributeValues ⟨dn, username, mapping.map fun entry => (entry.1, values entry.2)⟩ name
      = (mapping.find? fun entry => sameLower entry.1 name).elim [] fun entry =>
        (values entry.2).items := by
  have hfound : (mapping.map fun entry => (entry.1, values entry.2)).find?
        (fun entry => sameLower entry.1 name)
      = (mapping.find? fun entry => sameLower entry.1 name).map
        fun entry => (entry.1, values entry.2) := List.find?_map
  rw [User.attributeValues, hfound]
  cases mapping.find? fun entry => sameLower entry.1 name <;> rfl

/-- The user that is made from a mapping, whose lists are among these. -/
def made (dn username : String) (mapping : Assoc Holding) (lists : SharedLists) : SourcedUser :=
  { dn, username, source := mapping, attributes := mapping, lists }

/-- A user that is made from a mapping without shared lists is such a user, and has what the mapping
has. -/
theorem exists_made (dn username : String) (source : Assoc AttributeValues) :
    ∃ mapping lists, lists.Has mapping ∧ ofSource dn username source = made dn username mapping lists
      ∧ (ofSource dn username source).user = ⟨dn, username, source⟩ := by
  obtain ⟨-, hhas, hread⟩ := SharedLists.holdAll_kept [] source
  exact ⟨_, _, hhas, rfl, congrArg (User.mk dn username) hread⟩

/-- **A user is a snapshot except for the lists in it.** A user is made from a mapping; two names
may hold one list. Then the caller assigns in its mapping and appends to lists in it, whoever is
shown the user appends to lists in the user's mapping, and assigning in that mapping or to a field
is tried, in any order. The user stays exactly what it was if and only if nothing was appended to a
list that it was made with, and a lookup finds what it found if and only if nothing was appended to
the list that it finds. In any case the names of the user stay, and so does its mapping but for what
was appended to these lists. To assign in its mapping or to a field is always refused and changes
nothing. -/
theorem snapshot_kept_iff (dn username : String) {mapping : Assoc Holding} {lists : SharedLists}
    (h : lists.Has mapping) (actions : List DataAction) :
    let start := made dn username mapping lists
    let last := start.afterAll actions
    (last.user = start.user ↔
        ∀ entry ∈ mapping, ∀ index, entry.2 = .shared index → start.appended index actions = []) ∧
      (∀ name, last.user.attributeValues name = start.user.attributeValues name ↔
        ∀ entry, (mapping.find? fun entry => sameLower entry.1 name) = some entry →
          ∀ index, entry.2 = .shared index → start.appended index actions = []) ∧
      last.user = ⟨dn, username, mapping.map fun entry => (entry.1,
        (lists.read entry.2).extended
          (entry.2.index?.elim [] fun index => start.appended index actions))⟩ ∧
      (∀ name, ∃ failure, last.step (.assignAttribute name) = .error failure) ∧
      (∀ field, ∃ failure, last.step (.assignField field) = .error failure) ∧
      ∀ action failure, last.step action = .error failure → last.after action = last := by
  intro start last
  have hlast : last.user = ⟨dn, username, mapping.map fun entry => (entry.1,
      (lists.read entry.2).extended
        (entry.2.index?.elim [] fun index => start.appended index actions))⟩ :=
    user_afterAll h actions
  refine ⟨?_, ?_, hlast, fun _ => ⟨_, rfl⟩, fun _ => ⟨_, rfl⟩, ?_⟩
  -- The names are the same; the mapping is the same if each of its entries is.
  · rw [hlast]
    change User.mk dn username _ = User.mk dn username _ ↔ _
    rw [User.mk.injEq, eq_self, eq_self, true_and, true_and]
    change List.map _ mapping = List.map _ mapping ↔ _
    rw [List.map_inj_left]
    refine forall₂_congr fun entry hentry => ?_
    rw [Prod.mk.injEq, eq_self, true_and]
    exact AttributeValues.extended_eq_self_iff.trans lists.items_extended_eq_iff
  -- Extending lists changes no key, so the lookup finds the same entry before and after.
  · intro name
    rw [hlast]
    change User.attributeValues ⟨dn, username, _⟩ name
      = User.attributeValues ⟨dn, username, lists.readAll mapping⟩ name ↔ _
    rw [SharedLists.readAll, attributeValues_map dn username mapping lists.read,
      attributeValues_map dn username mapping fun holding => (lists.read holding).extended
        (holding.index?.elim [] fun index => start.appended index actions)]
    cases mapping.find? fun entry => sameLower entry.1 name with
    | none => simp
    | some entry =>
      simp only [Option.elim_some, Option.some.injEq, forall_eq']
      exact lists.items_extended_eq_iff
  · intro action failure hrefused
    rw [after, hrefused]
    rfl

/-- Two names hold one list. The caller assigns under one of them, a new list and then the list
under a third name, and appends to what it assigned. The user keeps what it had under all names. -/
theorem snapshot_kept_reassigned :
    let mapping : Assoc Holding :=
      [("mail", .shared 0), ("alias", .shared 0), ("phone", .single "5")]
    let lists : SharedLists := [["ben@x"], ["spare"]]
    let start := made "uid=ben,dc=x" "ben" mapping lists
    let last := start.afterAll [.changeSource "mail" (.listed ["new@x"]),
      .appendSource "mail" "more@x", .shareSource "mail" 1, .appendSource "mail" "more@x",
      .appendSource "phone" "6", .assignAttribute "alias", .assignField "dn"]
    lists.Has mapping ∧ last.user = start.user ∧
      last.user.attributeValues "MAIL" = ["ben@x"] := by
  intro mapping lists start last
  have hhas : lists.Has mapping := by
    simp [SharedLists.Has, mapping, lists]
  have hkept : last.user = start.user := by
    refine (snapshot_kept_iff "uid=ben,dc=x" "ben" hhas _).1.2 ?_
    simp only [mapping, List.forall_mem_cons, Holding.shared.injEq]
    refine ⟨?_, ?_, ?_, ?_⟩
    · rintro index rfl
      decide
    · rintro index rfl
      decide
    · rintro index ⟨⟩
    · simp
  refine ⟨hhas, hkept, ?_⟩
  rw [hkept]
  decide +kernel

/-- The caller appends to a list that it gave, and the user shows it. -/
theorem snapshot_lost_on_append :
    let start := ofSource "uid=ben,dc=x" "ben" [("mail", .listed ["ben@x"])]
    let last := start.after (.appendSource "mail" "eve@x")
    start.user.attributeValues "mail" = ["ben@x"] ∧
      last.user.attributeValues "mail" = ["ben@x", "eve@x"] ∧
      ((HookScript.fromAttribute "mail" "").additional last.user).toOption
        = some (some (TextSet.ofList ["ben@x", "eve@x"])) := by
  decide +kernel

end SourcedUser

end GrantedRoles
