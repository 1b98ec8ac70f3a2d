/-!
# Insertion-ordered maps

A list of keys and values in which a key keeps the place where it was first put. Attribute lists,
log fields and environments show this order in their answers.
-/

set_option autoImplicit false

namespace GrantedRoles

/-- Keys with their values, in the order of their first insertion. -/
abbrev Assoc (α : Type) := List (String × α)

namespace Assoc

variable {α : Type}

/-- The value of a key. -/
def get? (m : Assoc α) (key : String) : Option α := m.lookup key

/-- Sets the value of a key: in its place if it is there, else at the end. -/
def put (key : String) (value : α) : Assoc α → Assoc α
  | [] => [(key, value)]
  | (k, v) :: rest => if k == key then (k, value) :: rest else (k, v) :: put key value rest

/-- Sets the value of a key unless it has one. -/
def putIfAbsent (key : String) (value : α) (m : Assoc α) : Assoc α :=
  if (m.get? key).isSome then m else m.put key value

/-- Drops a key. -/
def erase (m : Assoc α) (key : String) : Assoc α := m.filter fun entry => entry.1 != key

/-- Sets several keys, one after the other. -/
def putAll (m : Assoc α) (entries : List (String × α)) : Assoc α :=
  entries.foldl (fun m entry => m.put entry.1 entry.2) m

/-- A map from pairs: a repeated key keeps its first place and takes its last value. -/
def ofPairs (entries : List (String × α)) : Assoc α := putAll [] entries

/-- The keys in order. -/
def keys (m : Assoc α) : List String := m.map Prod.fst

@[simp] theorem get?_nil (key : String) : get? ([] : Assoc α) key = none := rfl

theorem get?_cons (k key : String) (v : α) (m : Assoc α) :
    get? ((k, v) :: m) key = if key = k then some v else get? m key := by
  unfold get?
  rw [List.lookup_cons]
  by_cases h : key = k <;> simp [h, beq_eq_false_iff_ne.2]

theorem get?_eq_none {m : Assoc α} {key : String} (h : key ∉ m.keys) :
    m.get? key = none := by
  induction m with
  | nil => rfl
  | cons entry rest ih =>
    obtain ⟨k, v⟩ := entry
    rw [keys, List.map_cons, List.mem_cons, not_or] at h
    rw [get?_cons, if_neg h.1, ih h.2]

theorem get?_put (m : Assoc α) (key other : String) (value : α) :
    (m.put key value).get? other = if other = key then some value else m.get? other := by
  induction m with
  | nil => simp [put, get?_cons]
  | cons entry rest ih =>
    obtain ⟨k, v⟩ := entry
    by_cases hk : k = key
    · subst hk
      by_cases ho : other = k <;> simp [put, get?_cons, ho]
    · by_cases ho : other = key
      · subst ho
        have : ¬ other = k := fun h => hk h.symm
        simp [put, hk, get?_cons, ih, this]
      · simp [put, hk, get?_cons, ih, ho]

theorem get?_erase (m : Assoc α) (key other : String) :
    (m.erase key).get? other = if other = key then none else m.get? other := by
  induction m with
  | nil => simp [erase]
  | cons entry rest ih =>
    obtain ⟨k, v⟩ := entry
    unfold erase at ih ⊢
    by_cases hk : k = key
    · subst hk
      by_cases ho : other = k <;> simp_all [get?_cons]
    · by_cases ho : other = key
      · subst ho
        have : ¬ other = k := fun h => hk h.symm
        simp_all [get?_cons]
      · simp_all [get?_cons]

/-- Entries that are changed under their keys have the changed values. -/
theorem get?_map (m : Assoc α) {change : String × α → String × α}
    (h : ∀ entry, (change entry).1 = entry.1) (key : String) :
    get? (m.map change) key = (m.get? key).map fun value => (change (key, value)).2 := by
  induction m with
  | nil => rfl
  | cons entry rest ih =>
    obtain ⟨k, v⟩ := entry
    have hentry : change (k, v) = (k, (change (k, v)).2) := Prod.ext (h _) rfl
    rw [List.map_cons, hentry, get?_cons, get?_cons, ih]
    by_cases hk : key = k
    · rw [if_pos hk, if_pos hk, hk]
      rfl
    · rw [if_neg hk, if_neg hk]

/-- Dropping other keys leaves the value of a key. -/
theorem get?_filter (m : Assoc α) (keep : String → Bool) {key : String} (h : keep key = true) :
    get? (m.filter fun entry => keep entry.1) key = m.get? key := by
  induction m with
  | nil => rfl
  | cons entry rest ih =>
    obtain ⟨k, v⟩ := entry
    rw [List.filter_cons, get?_cons]
    by_cases hk : key = k
    · subst hk
      simp [h, get?_cons]
    · rw [if_neg hk, ← ih]
      split
      · rw [get?_cons, if_neg hk]
      · rfl

/-- A key that is dropped has no value. -/
theorem get?_filter_dropped (m : Assoc α) (keep : String → Bool) {key : String}
    (h : keep key = false) : get? (m.filter fun entry => keep entry.1) key = none := by
  apply get?_eq_none
  intro hkey
  obtain ⟨entry, hentry, rfl⟩ := List.mem_map.1 hkey
  have hkept := (List.mem_filter.1 hentry).2
  rw [h] at hkept
  cases hkept

theorem put_eq_self {m : Assoc α} {key : String} {value : α} (h : m.get? key = some value) :
    m.put key value = m := by
  induction m with
  | nil => cases h
  | cons entry rest ih =>
    obtain ⟨k, v⟩ := entry
    rw [get?_cons] at h
    by_cases hk : k = key
    · subst hk
      rw [if_pos rfl] at h
      cases h
      simp [put]
    · rw [if_neg fun heq => hk heq.symm] at h
      simp [put, hk, ih h]

theorem put_put (m : Assoc α) (key : String) (first last : α) :
    (m.put key first).put key last = m.put key last := by
  induction m with
  | nil => simp [put]
  | cons entry rest ih =>
    obtain ⟨k, v⟩ := entry
    by_cases hk : k = key <;> simp [put, hk, ih]

theorem erase_put {m : Assoc α} {key : String} (value : α) (h : m.get? key = none) :
    (m.put key value).erase key = m := by
  induction m with
  | nil => simp [put, erase]
  | cons entry rest ih =>
    obtain ⟨k, v⟩ := entry
    rw [get?_cons] at h
    by_cases hk : k = key
    · rw [if_pos hk.symm] at h
      cases h
    · rw [if_neg fun heq => hk heq.symm] at h
      have hrest := ih h
      unfold erase at hrest ⊢
      simp [put, hk, hrest]

theorem get?_putIfAbsent (m : Assoc α) (key other : String) (value : α) :
    (m.putIfAbsent key value).get? other
      = (m.get? other).or (if other = key then some value else none) := by
  unfold putIfAbsent
  split
  -- A key that has a value keeps it.
  · next h =>
    by_cases ho : other = key
    · subst ho
      obtain ⟨held, hheld⟩ := Option.isSome_iff_exists.1 h
      simp [hheld]
    · simp [ho]
  · next h =>
    rw [get?_put]
    by_cases ho : other = key
    · subst ho
      simp [Option.not_isSome_iff_eq_none.1 h]
    · simp [ho]

/-- What stands under a key was there, or an entry put it there. -/
theorem mem_of_get?_putAll {m : Assoc α} {entries : List (String × α)} {key : String} {value : α}
    (h : (m.putAll entries).get? key = some value) :
    m.get? key = some value ∨ (key, value) ∈ entries := by
  induction entries generalizing m with
  | nil => exact Or.inl h
  | cons entry rest ih =>
    obtain ⟨k, v⟩ := entry
    rcases ih (m := m.put k v) h with hput | hrest
    · rw [get?_put] at hput
      split at hput
      · next hk =>
        cases hput
        exact Or.inr (hk ▸ List.mem_cons_self)
      · exact Or.inl hput
    · exact Or.inr (List.mem_cons_of_mem _ hrest)

theorem put_of_not_mem {m : Assoc α} {key : String} (value : α) (h : key ∉ m.keys) :
    m.put key value = m ++ [(key, value)] := by
  induction m with
  | nil => rfl
  | cons entry rest ih =>
    obtain ⟨k, v⟩ := entry
    rw [keys, List.map_cons, List.mem_cons, not_or] at h
    have hk : (k == key) = false := beq_false_of_ne fun heq => h.1 heq.symm
    rw [put, hk, ih h.2]
    rfl

theorem keys_put {m : Assoc α} {key : String} (value : α) (h : key ∉ m.keys) :
    (m.put key value).keys = m.keys ++ [key] := by
  rw [put_of_not_mem value h, keys, List.map_append]
  rfl

/-! ## Keys that are not repeated -/

/-- Setting the value of a key that is there changes no key. -/
theorem keys_put_of_mem {m : Assoc α} {key : String} (value : α) (h : key ∈ m.keys) :
    (m.put key value).keys = m.keys := by
  induction m with
  | nil => cases h
  | cons entry rest ih =>
    obtain ⟨k, v⟩ := entry
    by_cases hk : k = key
    · simp [put, keys, hk]
    · have hrest : key ∈ keys rest := by
        rw [keys, List.map_cons, List.mem_cons] at h
        exact h.resolve_left fun heq => hk heq.symm
      have hkeys := ih hrest
      unfold keys at hkeys ⊢
      simp [put, hk, hkeys]

theorem nodup_put {m : Assoc α} (key : String) (value : α) (h : m.keys.Nodup) :
    (m.put key value).keys.Nodup := by
  by_cases hk : key ∈ m.keys
  · rwa [keys_put_of_mem value hk]
  · rw [keys_put value hk]
    refine List.nodup_append.2 ⟨h, by simp, ?_⟩
    rintro k hmem other hother rfl
    exact hk (List.mem_singleton.1 hother ▸ hmem)

theorem nodup_putIfAbsent {m : Assoc α} (key : String) (value : α) (h : m.keys.Nodup) :
    (m.putIfAbsent key value).keys.Nodup := by
  unfold putIfAbsent
  split
  · exact h
  · exact nodup_put key value h

theorem nodup_putAll {m : Assoc α} (entries : List (String × α)) (h : m.keys.Nodup) :
    (m.putAll entries).keys.Nodup := by
  induction entries generalizing m with
  | nil => exact h
  | cons entry rest ih => exact ih (nodup_put entry.1 entry.2 h)

theorem nodup_ofPairs (entries : List (String × α)) : (ofPairs entries).keys.Nodup :=
  nodup_putAll entries List.nodup_nil

/-- What is kept of a map has each key once if the map has. -/
theorem nodup_filter {m : Assoc α} (keep : String × α → Bool) (h : m.keys.Nodup) :
    (keys (m.filter keep)).Nodup :=
  List.Nodup.sublist (List.Sublist.map Prod.fst List.filter_sublist) h

/-- If no key is repeated, the entries are the values of the keys. -/
theorem mem_iff_get? {m : Assoc α} (h : m.keys.Nodup) {key : String} {value : α} :
    (key, value) ∈ m ↔ m.get? key = some value := by
  induction m with
  | nil => simp
  | cons entry rest ih =>
    obtain ⟨k, v⟩ := entry
    obtain ⟨hfresh, hrest⟩ := List.nodup_cons.1 h
    rw [List.mem_cons, get?_cons, ih hrest]
    by_cases hk : key = k
    · subst hk
      have hnone : get? rest key = none := get?_eq_none hfresh
      simp [hnone, eq_comm]
    · simp [hk]

/-- Entries with different new keys are put one after the other. -/
theorem putAll_of_nodup (m : Assoc α) {entries : Assoc α} (h : (m ++ entries).keys.Nodup) :
    m.putAll entries = m ++ entries := by
  induction entries generalizing m with
  | nil => exact (List.append_nil m).symm
  | cons entry rest ih =>
    obtain ⟨k, v⟩ := entry
    have hfresh : k ∉ m.keys := by
      rw [keys, List.map_append, List.nodup_append] at h
      intro hk
      exact h.2.2 k hk k List.mem_cons_self rfl
    rw [List.append_cons] at h ⊢
    have hput : m.putAll ((k, v) :: rest) = (m.put k v).putAll rest := rfl
    rw [hput, put_of_not_mem v hfresh]
    exact ih _ h

theorem ofPairs_of_nodup {entries : Assoc α} (h : entries.keys.Nodup) :
    ofPairs entries = entries :=
  putAll_of_nodup [] h

theorem keys_erase (m : Assoc α) (key : String) :
    (m.erase key).keys = m.keys.filter fun k => k != key := by
  unfold keys erase
  rw [List.filter_map]
  rfl

end Assoc

end GrantedRoles
