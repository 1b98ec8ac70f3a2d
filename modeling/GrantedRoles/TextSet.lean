/-!
# Sets of texts

Attribute values and roles form sets. A set is the strictly ascending list of its members, so two
sets with the same members are equal and an answer lists them by code point.
-/

set_option autoImplicit false

namespace GrantedRoles

/-- A finite set of texts, as the strictly ascending list of its members. -/
structure TextSet where
  toList : List String
  ascending : toList.Pairwise (· < ·) := by decide
  deriving DecidableEq

namespace TextSet

/-- Adds a text to an ascending list. -/
def insertInto (s : String) : List String → List String
  | [] => [s]
  | t :: rest =>
      if s < t then s :: t :: rest
      else if s = t then t :: rest
      else t :: insertInto s rest

theorem mem_insertInto {s t : String} {l : List String} :
    t ∈ insertInto s l ↔ t = s ∨ t ∈ l := by
  induction l with
  | nil => simp [insertInto]
  | cons x rest ih =>
    unfold insertInto
    split
    · simp
    · split
      · next h => subst h; simp
      · simp [ih, or_left_comm]

theorem ascending_insertInto {s : String} {l : List String} (h : l.Pairwise (· < ·)) :
    (insertInto s l).Pairwise (· < ·) := by
  induction l with
  | nil => simp [insertInto]
  | cons x rest ih =>
    have hx := List.pairwise_cons.1 h
    unfold insertInto
    split
    -- Before the head.
    · next hs =>
      refine List.pairwise_cons.2 ⟨fun t ht => ?_, h⟩
      rcases List.mem_cons.1 ht with rfl | ht
      · exact hs
      · exact String.lt_trans hs (hx.1 t ht)
    · split
      · exact h
      -- Somewhere behind the head, which stays below all the others.
      · next hs hne =>
        refine List.pairwise_cons.2 ⟨fun t ht => ?_, ih hx.2⟩
        rcases mem_insertInto.1 ht with rfl | ht
        · exact Std.lt_of_le_of_ne (String.not_lt.1 hs) (Ne.symm hne)
        · exact hx.1 t ht

instance : Membership String TextSet := ⟨fun set s => s ∈ set.toList⟩

instance (s : String) (set : TextSet) : Decidable (s ∈ set) :=
  inferInstanceAs (Decidable (s ∈ set.toList))

/-- The set without members. -/
def empty : TextSet := ⟨[], List.Pairwise.nil⟩

/-- Adds one text. -/
def insert (s : String) (set : TextSet) : TextSet :=
  ⟨insertInto s set.toList, ascending_insertInto set.ascending⟩

/-- Adds every text of a list. -/
def insertAll (set : TextSet) (texts : List String) : TextSet :=
  texts.foldl (fun acc s => acc.insert s) set

/-- The members of a list. -/
def ofList (texts : List String) : TextSet := empty.insertAll texts

/-- The members of either set. -/
def union (a b : TextSet) : TextSet := a.insertAll b.toList

@[simp] theorem not_mem_empty (s : String) : ¬ s ∈ empty := List.not_mem_nil

@[simp] theorem mem_insert {s t : String} {set : TextSet} :
    t ∈ set.insert s ↔ t = s ∨ t ∈ set := mem_insertInto

@[simp] theorem mem_insertAll {t : String} {set : TextSet} {texts : List String} :
    t ∈ set.insertAll texts ↔ t ∈ set ∨ t ∈ texts := by
  induction texts generalizing set with
  | nil => simp [insertAll]
  | cons s rest ih =>
    have hrest : t ∈ (set.insert s).insertAll rest ↔ t ∈ set.insert s ∨ t ∈ rest := ih
    simp only [insertAll, List.foldl_cons] at hrest ⊢
    rw [hrest]
    simp [or_assoc, or_left_comm]

@[simp] theorem mem_ofList {t : String} {texts : List String} : t ∈ ofList texts ↔ t ∈ texts := by
  simp [ofList]

@[simp] theorem mem_union {t : String} {a b : TextSet} : t ∈ a.union b ↔ t ∈ a ∨ t ∈ b := by
  simp only [union, mem_insertAll]
  exact Iff.rfl

/-- A set is known by its members: there is one strictly ascending list of them. -/
theorem ext {a b : TextSet} (h : ∀ s, s ∈ a ↔ s ∈ b) : a = b := by
  have hnodup : ∀ set : TextSet, set.toList.Nodup := fun set => by
    refine set.ascending.imp ?_
    rintro s t hlt rfl
    exact String.lt_irrefl s hlt
  have hperm : a.toList.Perm b.toList :=
    (List.perm_ext_iff_of_nodup (hnodup a) (hnodup b)).2 h
  have hlist : a.toList = b.toList :=
    hperm.eq_of_pairwise (fun _ _ _ _ hst hts => absurd hst (String.lt_asymm hts)) a.ascending
      b.ascending
  cases a
  cases b
  cases hlist
  rfl

end TextSet

end GrantedRoles
