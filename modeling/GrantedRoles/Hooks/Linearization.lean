/-!
# The order of inherited classes

A class looks a method up in one list of classes: itself first, every class before its own bases,
and the bases of a class in the order in which it names them. Where the orders of the bases agree
there is one such list that takes the leftmost base it can (`merge`); where they do not, there is
none.
-/

set_option autoImplicit false

namespace GrantedRoles.Linearization

/-- Classes are known by number. -/
abbrev ClassId := Nat

/-- A class may come next if no list holds it behind its head. -/
def eligible (lists : List (List ClassId)) (c : ClassId) : Bool :=
  lists.all fun list => !list.tail.contains c

/-- The class that comes next: the leftmost head that may. -/
def next? (lists : List (List ClassId)) : Option ClassId :=
  (lists.filterMap List.head?).find? (eligible lists)

/-- Drops a class from the head of every list. -/
def advance (c : ClassId) (lists : List (List ClassId)) : List (List ClassId) :=
  lists.map fun list => if list.head? = some c then list.tail else list

/-- The number of classes in all lists. -/
def size (lists : List (List ClassId)) : Nat :=
  lists.foldr (fun list total => list.length + total) 0

theorem size_advance_le (c : ClassId) (lists : List (List ClassId)) :
    size (advance c lists) ≤ size lists := by
  induction lists with
  | nil => exact Nat.le_refl _
  | cons list rest ih =>
    have hl : (if list.head? = some c then list.tail else list).length ≤ list.length := by
      split
      · simp
      · exact Nat.le_refl _
    exact Nat.add_le_add hl ih

theorem size_advance_lt {c : ClassId} {lists : List (List ClassId)}
    (h : c ∈ lists.filterMap List.head?) : size (advance c lists) < size lists := by
  induction lists with
  | nil => simp at h
  | cons list rest ih =>
    have hrest := size_advance_le c rest
    -- Either this list loses its head, or the class heads a later one.
    by_cases hc : list.head? = some c
    · have hl : list.tail.length < list.length := by
        cases list with
        | nil => simp at hc
        | cons _ _ => simp
      simp only [size, advance, List.map_cons, List.foldr_cons, hc, if_true] at hrest ⊢
      exact Nat.add_lt_add_of_lt_of_le hl hrest
    · have hmem : c ∈ rest.filterMap List.head? := by
        cases hh : list.head? with
        | none => simpa [List.filterMap_cons, hh] using h
        | some d =>
          have hd : c ≠ d := fun hcd => hc (hcd ▸ hh)
          simpa [List.filterMap_cons, hh, hd] using h
      have := ih hmem
      simp only [size, advance, List.map_cons, List.foldr_cons, hc, if_false] at this ⊢
      omega

theorem next?_mem {lists : List (List ClassId)} {c : ClassId} (h : next? lists = some c) :
    c ∈ lists.filterMap List.head? := List.mem_of_find?_eq_some h

/-- One list that keeps the order of every given list, if the orders agree. -/
def merge (lists : List (List ClassId)) : Option (List ClassId) :=
  if lists.all List.isEmpty then some []
  else
    match h : next? lists with
    | none => none
    | some c =>
        have := size_advance_lt (next?_mem h)
        (merge (advance c lists)).map (c :: ·)
termination_by size lists

end GrantedRoles.Linearization
