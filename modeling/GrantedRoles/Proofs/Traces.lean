import Mathlib.Data.List.Induction

/-!
# Traces

What happened in a trace and was not undone since: `Since P Q` says that an event with `P` happened,
of which `P` may see the events before it, and no event with `Q` after it. `First` points at the
first such event, the one before which there was none.
-/

set_option autoImplicit false

namespace GrantedRoles

variable {α : Type} {P : List α → α → Prop} {Q : α → Prop}

/-- An event with `P` happened, and none with `Q` since. -/
def Since (P : List α → α → Prop) (Q : α → Prop) (trace : List α) : Prop :=
  ∃ before event since, trace = before ++ event :: since ∧ P before event ∧ ∀ one ∈ since, ¬ Q one

/-- The first event with `P` that no event with `Q` follows. -/
structure First (P : List α → α → Prop) (Q : α → Prop) (trace before : List α) (event : α)
    (since : List α) : Prop where
  split : trace = before ++ event :: since
  happened : P before event
  first : ¬ Since P Q before
  kept : ∀ one ∈ since, ¬ Q one

/-- A longer trace is split where the shorter one is, or at its end. -/
theorem concat_eq_append_cons_iff {trace before since : List α} {last event : α} :
    trace ++ [last] = before ++ event :: since ↔
      (since = [] ∧ trace = before ∧ last = event) ∨
        ∃ between, since = between ++ [last] ∧ trace = before ++ event :: between := by
  rcases List.eq_nil_or_concat since with rfl | ⟨between, final, rfl⟩
  · simp
  · rw [List.concat_eq_append, ← List.cons_append, ← List.append_assoc]
    constructor
    · intro h
      obtain ⟨htrace, hlast⟩ := List.append_inj' h rfl
      cases hlast
      exact Or.inr ⟨between, rfl, htrace⟩
    · rintro (⟨hnil, -⟩ | ⟨other, hsince, htrace⟩)
      · simp at hnil
      · obtain ⟨rfl, hlast⟩ := List.append_inj' hsince rfl
        cases hlast
        rw [htrace]

theorem not_since_nil : ¬ Since P Q [] := by
  rintro ⟨before, event, since, hsplit, -⟩
  cases before <;> cases hsplit

/-- The last event keeps what happened before it, or it is what happens. -/
theorem since_concat {trace : List α} {last : α} :
    Since P Q (trace ++ [last]) ↔ P trace last ∨ (Since P Q trace ∧ ¬ Q last) := by
  constructor
  · rintro ⟨before, event, since, hsplit, hevent, hkept⟩
    rcases concat_eq_append_cons_iff.1 hsplit with ⟨rfl, rfl, rfl⟩ | ⟨between, rfl, hbetween⟩
    · exact Or.inl hevent
    · rw [List.forall_mem_append, List.forall_mem_singleton] at hkept
      exact Or.inr ⟨⟨before, event, between, hbetween, hevent, hkept.1⟩, hkept.2⟩
  · rintro (hlast | ⟨⟨before, event, since, rfl, hevent, hkept⟩, hlast⟩)
    · exact ⟨trace, last, [], rfl, hlast, by simp⟩
    · refine ⟨before, event, since ++ [last], by simp, hevent, ?_⟩
      rw [List.forall_mem_append, List.forall_mem_singleton]
      exact ⟨hkept, hlast⟩

/-- The first event that lasts is the last one, or it was the first one before. -/
theorem first_concat {trace before since : List α} {last event : α} :
    First P Q (trace ++ [last]) before event since ↔
      (since = [] ∧ before = trace ∧ event = last ∧ P trace last ∧ ¬ Since P Q trace) ∨
        ∃ between, since = between ++ [last] ∧ First P Q trace before event between ∧ ¬ Q last := by
  constructor
  · rintro ⟨hsplit, hevent, hfirst, hkept⟩
    rcases concat_eq_append_cons_iff.1 hsplit with ⟨rfl, rfl, rfl⟩ | ⟨between, rfl, hbetween⟩
    · exact Or.inl ⟨rfl, rfl, rfl, hevent, hfirst⟩
    · rw [List.forall_mem_append, List.forall_mem_singleton] at hkept
      exact Or.inr ⟨between, rfl, ⟨hbetween, hevent, hfirst, hkept.1⟩, hkept.2⟩
  · rintro (⟨rfl, rfl, rfl, hevent, hfirst⟩ | ⟨between, rfl, ⟨rfl, hevent, hfirst, hkept⟩, hlast⟩)
    · exact ⟨rfl, hevent, hfirst, by simp⟩
    · refine ⟨by simp, hevent, hfirst, ?_⟩
      rw [List.forall_mem_append, List.forall_mem_singleton]
      exact ⟨hkept, hlast⟩

/-- What happened and was not undone has a first event that lasts, if no event undoes itself. -/
theorem since_iff_exists_first (hself : ∀ before event, P before event → ¬ Q event)
    {trace : List α} :
    Since P Q trace ↔ ∃ before event since, First P Q trace before event since := by
  constructor
  · intro h
    induction trace using List.reverseRecOn with
    | nil => exact absurd h not_since_nil
    | append_singleton trace last ih =>
      -- An earlier event goes before the last one, which does not undo it.
      by_cases hearlier : Since P Q trace ∧ ¬ Q last
      · obtain ⟨before, event, since, hfirst⟩ := ih hearlier.1
        exact ⟨before, event, _, first_concat.2 (Or.inr ⟨since, rfl, hfirst, hearlier.2⟩)⟩
      · rcases since_concat.1 h with hlast | hlasts
        · have hnone : ¬ Since P Q trace :=
            fun hsince => hearlier ⟨hsince, hself trace last hlast⟩
          exact ⟨trace, last, [], first_concat.2 (Or.inl ⟨rfl, rfl, rfl, hlast, hnone⟩)⟩
        · exact absurd hlasts hearlier
  · rintro ⟨before, event, since, h⟩
    exact ⟨before, event, since, h.split, h.happened, h.kept⟩

end GrantedRoles
