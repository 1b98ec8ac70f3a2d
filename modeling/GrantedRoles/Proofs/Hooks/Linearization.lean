import Mathlib.Data.List.Perm.Subperm
import GrantedRoles.Hooks.Linearization

/-!
# What a merged order is

`Merges` is the merge as a relation between lists and an order: a class comes next if it heads a
list, no list holds it back, and every head to the left of it is held back. `merge` computes it
(`merge_eq_some_iff`). A merged order keeps the order of every list, has the classes of the lists
and no others, and has none twice; and there is one whenever any order without repetitions keeps
that of every list (`exists_merges_iff`).
-/

set_option autoImplicit false

namespace GrantedRoles.Linearization

/-- A list has the class behind its head. -/
def HeldBack (lists : List (List ClassId)) (c : ClassId) : Prop := ∃ list ∈ lists, c ∈ list.tail

/-- An order that is merged from lists: nothing from empty ones; else the leftmost head that no list
holds back, and what is merged once it is dropped from all heads. -/
inductive Merges : List (List ClassId) → List ClassId → Prop
  | done {lists : List (List ClassId)} (h : ∀ list ∈ lists, list = []) : Merges lists []
  | step {lists : List (List ClassId)} {c : ClassId} {rest : List ClassId}
      (before after : List (List ClassId)) (tail : List ClassId)
      (hplace : lists = before ++ (c :: tail) :: after)
      (hfree : ¬ HeldBack lists c)
      (hleft : ∀ list ∈ before, ∀ d, list.head? = some d → HeldBack lists d)
      (hrest : Merges (advance c lists) rest) : Merges lists (c :: rest)

/-! ## One step -/

variable {lists : List (List ClassId)} {c d : ClassId}

theorem eligible_eq_true_iff : eligible lists c = true ↔ ¬ HeldBack lists c := by
  simp [eligible, HeldBack]

theorem eligible_eq_false_iff : eligible lists c = false ↔ HeldBack lists c := by
  rw [← Bool.not_eq_true, eligible_eq_true_iff, Classical.not_not]

/-- What comes next is the leftmost head that no list holds back. -/
theorem next?_eq_some_iff :
    next? lists = some c ↔ ∃ before tail after, lists = before ++ (c :: tail) :: after ∧
      ¬ HeldBack lists c ∧
        ∀ list ∈ before, ∀ d, list.head? = some d → HeldBack lists d := by
  unfold next?
  rw [List.find?_eq_some_iff_append, eligible_eq_true_iff]
  constructor
  · rintro ⟨hfree, heads, others, hheads, hleft⟩
    obtain ⟨before, rest, rfl, hbefore, hrest⟩ := List.filterMap_eq_append_iff.1 hheads
    obtain ⟨empty, list, after, rfl, hempty, hhead, -⟩ := List.filterMap_eq_cons_iff.1 hrest
    obtain ⟨tail, rfl⟩ := List.head?_eq_some_iff.1 hhead
    refine ⟨before ++ empty, tail, after, by simp, hfree, ?_⟩
    intro list hlist d hd
    rcases List.mem_append.1 hlist with hlist | hlist
    · have hmem : d ∈ heads := by
        rw [← hbefore]
        exact List.mem_filterMap.2 ⟨list, hlist, hd⟩
      have hrefused := hleft d hmem
      rw [Bool.not_eq_true'] at hrefused
      exact eligible_eq_false_iff.1 hrefused
    · rw [hempty list hlist] at hd
      cases hd
  · rintro ⟨before, tail, after, hplace, hfree, hleft⟩
    refine ⟨hfree, before.filterMap List.head?, after.filterMap List.head?, ?_, ?_⟩
    · rw [hplace]
      simp
    · intro d hd
      obtain ⟨list, hlist, hhead⟩ := List.mem_filterMap.1 hd
      rw [eligible_eq_false_iff.2 (hleft list hlist d hhead)]
      rfl

/-- A list without its head, or the list itself if another class heads it. -/
theorem mem_advance {list : List ClassId} :
    list ∈ advance c lists ↔
      c :: list ∈ lists ∨ (list ∈ lists ∧ list.head? ≠ some c) := by
  unfold advance
  rw [List.mem_map]
  constructor
  · rintro ⟨original, horiginal, rfl⟩
    split
    · next hhead =>
      obtain ⟨tail, rfl⟩ := List.head?_eq_some_iff.1 hhead
      exact Or.inl horiginal
    · next hhead => exact Or.inr ⟨horiginal, hhead⟩
  · rintro (hlist | ⟨hlist, hhead⟩)
    · exact ⟨c :: list, hlist, if_pos rfl⟩
    · exact ⟨list, hlist, if_neg hhead⟩

/-- A class that no list holds back is gone from all of them once it is dropped from their heads. -/
theorem not_mem_of_mem_advance (hfree : ¬ HeldBack lists c) {list : List ClassId}
    (h : list ∈ advance c lists) : c ∉ list := by
  intro hc
  rcases mem_advance.1 h with hlist | ⟨hlist, hhead⟩
  · exact hfree ⟨c :: list, hlist, hc⟩
  · cases list with
    | nil => cases hc
    | cons first tail =>
      rcases List.mem_cons.1 hc with rfl | hc
      · exact hhead rfl
      · exact hfree ⟨first :: tail, hlist, hc⟩

/-! ## The computed order -/

/-- Either all lists are empty or some are not; `merge` looks at that first. -/
theorem all_isEmpty_iff : lists.all List.isEmpty = true ↔ ∀ list ∈ lists, list = [] := by
  simp

/-- Lists that are not all empty but let no class come next have no merged order. -/
theorem merge_of_next?_eq_none (hnonempty : ¬ lists.all List.isEmpty = true)
    (hnext : next? lists = none) : merge lists = none := by
  rw [merge, if_neg hnonempty]
  split
  · rfl
  · next c hc =>
    rw [hnext] at hc
    cases hc

/-- The class that comes next heads the merged order. -/
theorem merge_of_next?_eq_some (hnonempty : ¬ lists.all List.isEmpty = true)
    (hnext : next? lists = some c) : merge lists = (merge (advance c lists)).map (c :: ·) := by
  rw [merge, if_neg hnonempty]
  split
  · next hnone =>
    rw [hnext] at hnone
    cases hnone
  · next c' hc' =>
    rw [hnext] at hc'
    cases hc'
    rfl

/-- `merge` gives the order that the lists merge to. -/
theorem merge_eq_some_iff {order : List ClassId} :
    merge lists = some order ↔ Merges lists order := by
  constructor
  · intro h
    -- Along the recursion of `merge`, whose steps are those of the relation.
    induction lists using merge.induct generalizing order with
    | case1 lists hempty =>
      rw [merge, if_pos hempty] at h
      cases h
      exact .done (all_isEmpty_iff.1 hempty)
    | case2 lists hnonempty hnext =>
      rw [merge_of_next?_eq_none hnonempty hnext] at h
      cases h
    | case3 lists hnonempty c hnext _ ih =>
      rw [merge_of_next?_eq_some hnonempty hnext] at h
      obtain ⟨rest, hrest, rfl⟩ := Option.map_eq_some_iff.1 h
      obtain ⟨before, tail, after, hplace, hfree, hleft⟩ := next?_eq_some_iff.1 hnext
      exact .step before after tail hplace hfree hleft (ih hrest)
  · intro h
    induction h with
    | done hempty => rw [merge, if_pos (all_isEmpty_iff.2 hempty)]
    | @step lists c rest before after tail hplace hfree hleft _ ih =>
      have hnext : next? lists = some c :=
        next?_eq_some_iff.2 ⟨before, tail, after, hplace, hfree, hleft⟩
      have hnonempty : ¬ lists.all List.isEmpty = true := by
        rw [all_isEmpty_iff]
        intro hempty
        exact List.cons_ne_nil c tail (hempty (c :: tail) (by rw [hplace]; simp))
      rw [merge_of_next?_eq_some hnonempty hnext, ih]
      rfl

/-! ## Merged orders -/

namespace Merges

variable {order : List ClassId}

/-- A merged order keeps the order of every list. -/
theorem sublist (h : Merges lists order) {list : List ClassId} (hlist : list ∈ lists) :
    list.Sublist order := by
  induction h generalizing list with
  | done hempty =>
    rw [hempty list hlist]
  | @step lists c rest _ _ _ _ _ _ _ ih =>
    by_cases hhead : list.head? = some c
    · obtain ⟨tail, rfl⟩ := List.head?_eq_some_iff.1 hhead
      exact (ih (mem_advance.2 (Or.inl hlist))).cons_cons c
    · exact (ih (mem_advance.2 (Or.inr ⟨hlist, hhead⟩))).cons c

/-- It has the classes of the lists and no others. -/
theorem mem_iff (h : Merges lists order) : c ∈ order ↔ ∃ list ∈ lists, c ∈ list := by
  constructor
  · intro hc
    induction h with
    | done _ => cases hc
    | @step lists d rest before after tail hplace _ _ _ ih =>
      rcases List.mem_cons.1 hc with rfl | hc
      · exact ⟨c :: tail, by rw [hplace]; simp, List.mem_cons_self⟩
      · obtain ⟨list, hlist, hmem⟩ := ih hc
        rcases mem_advance.1 hlist with hlist | ⟨hlist, -⟩
        · exact ⟨d :: list, hlist, List.mem_cons_of_mem d hmem⟩
        · exact ⟨list, hlist, hmem⟩
  · rintro ⟨list, hlist, hc⟩
    exact (h.sublist hlist).subset hc

/-- It has no class twice. -/
theorem nodup (h : Merges lists order) : order.Nodup := by
  induction h with
  | done _ => exact List.nodup_nil
  | step before after tail hplace hfree _ hrest ih =>
    refine List.nodup_cons.2 ⟨?_, ih⟩
    intro hc
    obtain ⟨list, hlist, hmem⟩ := hrest.mem_iff.1 hc
    exact not_mem_of_mem_advance hfree hlist hmem

/-- Where one list has all the classes it is the merged order. -/
theorem eq_of_subset (h : Merges lists order) {list : List ClassId} (hlist : list ∈ lists)
    (hall : ∀ other ∈ lists, ∀ d ∈ other, d ∈ list) : order = list := by
  have hsubset : order ⊆ list := by
    intro d hd
    obtain ⟨other, hother, hmem⟩ := h.mem_iff.1 hd
    exact hall other hother d hmem
  have hlength : order.length ≤ list.length := (List.subperm_of_subset h.nodup hsubset).length_le
  exact ((h.sublist hlist).eq_of_length_le hlength).symm

end Merges

/-! ## Orders that agree -/

/-- The lists agree: some order without repetitions keeps that of each of them. -/
def Agree (lists : List (List ClassId)) : Prop :=
  ∃ order : List ClassId, order.Nodup ∧ ∀ list ∈ lists, list.Sublist order

theorem Agree.advance (h : Agree lists) (c : ClassId) : Agree (advance c lists) := by
  obtain ⟨order, hnodup, hkept⟩ := h
  refine ⟨order, hnodup, ?_⟩
  intro list hlist
  rcases mem_advance.1 hlist with hlist | ⟨hlist, -⟩
  · exact (List.sublist_cons_self c list).trans (hkept _ hlist)
  · exact hkept list hlist

/-- Of lists that agree and are not all empty, some head is held back by none: the one that comes
first in the order that keeps them all. -/
theorem Agree.exists_free (h : Agree lists) (hsome : ∃ list ∈ lists, list ≠ []) :
    ∃ list ∈ lists, ∃ c, list.head? = some c ∧ ¬ HeldBack lists c := by
  obtain ⟨order, hnodup, hkept⟩ := h
  induction order with
  | nil =>
    obtain ⟨list, hlist, hne⟩ := hsome
    exact absurd (List.sublist_nil.1 (hkept list hlist)) hne
  | cons first rest ih =>
    obtain ⟨hfresh, hrest⟩ := List.nodup_cons.1 hnodup
    -- A list goes on within the rest, whether or not the first class heads it.
    have htail : ∀ list ∈ lists, list.tail.Sublist rest := by
      intro list hlist
      exact (hkept list hlist).tail
    by_cases hheads : ∃ list ∈ lists, list.head? = some first
    · obtain ⟨list, hlist, hhead⟩ := hheads
      refine ⟨list, hlist, first, hhead, ?_⟩
      rintro ⟨other, hother, hmem⟩
      exact hfresh ((htail other hother).subset hmem)
    · apply ih hrest
      intro list hlist
      rcases List.sublist_cons_iff.1 (hkept list hlist) with hsub | ⟨tail, rfl, -⟩
      · exact hsub
      · exact absurd ⟨_, hlist, rfl⟩ hheads

/-- Lists that agree merge, by induction on how much there is to merge. -/
theorem Agree.exists_merges (h : Agree lists) : ∃ order, Merges lists order := by
  induction lists using merge.induct with
  | case1 lists hempty => exact ⟨[], .done (all_isEmpty_iff.1 hempty)⟩
  | case2 lists hnonempty hnext =>
    rw [all_isEmpty_iff] at hnonempty
    obtain ⟨list, hlist, c, hhead, hfree⟩ := h.exists_free (by simpa using hnonempty)
    have hc : c ∈ lists.filterMap List.head? := List.mem_filterMap.2 ⟨list, hlist, hhead⟩
    exact absurd (eligible_eq_true_iff.2 hfree) (List.find?_eq_none.1 hnext c hc)
  | case3 lists _ c hnext _ ih =>
    obtain ⟨rest, hrest⟩ := ih (h.advance c)
    obtain ⟨before, tail, after, hplace, hfree, hleft⟩ := next?_eq_some_iff.1 hnext
    exact ⟨c :: rest, .step before after tail hplace hfree hleft hrest⟩

/-- **There is a merged order exactly if the lists agree.** -/
theorem exists_merges_iff : (∃ order, Merges lists order) ↔ Agree lists := by
  constructor
  · rintro ⟨order, h⟩
    exact ⟨order, h.nodup, fun _ => h.sublist⟩
  · exact Agree.exists_merges

end GrantedRoles.Linearization
