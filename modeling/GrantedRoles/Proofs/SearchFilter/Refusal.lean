import GrantedRoles.Proofs.SearchFilter.Formatting

/-!
# How a search filter is refused

A template that is no template, or that refers to parameters which are not there, is refused as a
failed search: callers deny access on that. One kind of text escapes this: a placeholder whose name
is made of digits passes for a number, but a superscript is a digit that writes no number, and a
number may be too long to be read. Then reading the number fails, and its failure is no failed
search. `refused_as_search_iff` says that this happens for the texts that stumble and for no others.
-/

set_option autoImplicit false

namespace GrantedRoles.SearchFilter

/-- A search could not be completed. -/
def IsSearchFailure : Failure → Prop
  | .search _ => True
  | _ => False

/-- A text that does not stumble is read or refused as a failed search. -/
theorem isSearchFailure_of_readText {template : String} {failure : Failure}
    (h : readText template = .error failure) (hsteady : ¬ Stumbles template.toList) :
    IsSearchFailure failure := by
  have hreading := reading_readText template
  rw [h] at hreading
  cases hreading with
  | refused fault => exact trivial
  | stumbled fault hstumbles => exact absurd hstumbles hsteady

theorem placeholderIndexes_eq_error {template : String} {failure : Failure} :
    placeholderIndexes (.text template) = .error failure ↔ readText template = .error failure :=
  map_eq_error_iff

/-- Rendering with texts fails as reading does, or because parameters are missing. -/
theorem render_eq_error {template : String} {params : List String} {failure : Failure}
    (h : render (.text template) (params.map .text) = .error failure) :
    readText template = .error failure ∨ IsSearchFailure failure := by
  cases hreadText : readText template with
  | error fault =>
    have hread : read (.text template) = .error fault := hreadText
    rw [render, hread] at h
    cases h
    exact Or.inl rfl
  | ok parts =>
    apply Or.inr
    by_cases hsupplied : ∀ index ∈ references parts, index < (params.map Value.text).length
    · rw [render_of_readText hreadText hsupplied, escapeAll_texts] at h
      cases h
    · -- Some parameter is missing, and then nothing is escaped.
      have hread : read (.text template) = .ok parts := hreadText
      rw [render, hread] at h
      simp only at h
      split at h
      · next hmissing =>
        refine absurd (fun index hindex => ?_) hsupplied
        simpa using List.filter_eq_nil_iff.1 hmissing index hindex
      · cases h
        exact trivial

theorem render_of_readText_error {template : String} {failure : Failure}
    (h : readText template = .error failure) (params : List Value) :
    render (.text template) params = .error failure := by
  have hread : read (.text template) = readText template := rfl
  rw [render, hread, h]

/-- **When a filter is refused as a failed search.** Finding the placeholders of a text, and
rendering it with texts, fail only as failed searches exactly if the text does not stumble; if it
does, both fail because a number cannot be read. -/
theorem refused_as_search_iff (template : String) (params : List String) :
    ((∀ failure, placeholderIndexes (.text template) = .error failure → IsSearchFailure failure) ↔
        ¬ Stumbles template.toList) ∧
      ((∀ failure, render (.text template) (params.map .text) = .error failure →
          IsSearchFailure failure) ↔ ¬ Stumbles template.toList) ∧
      (Stumbles template.toList → ∃ fault,
        placeholderIndexes (.text template) = .error (.value fault) ∧
          render (.text template) (params.map .text) = .error (.value fault)) := by
  have hstumbles : Stumbles template.toList → ∃ fault,
      placeholderIndexes (.text template) = .error (.value fault) ∧
        render (.text template) (params.map .text) = .error (.value fault) := by
    intro h
    obtain ⟨fault, hread⟩ := readText_eq_value_iff.2 h
    exact ⟨fault, placeholderIndexes_eq_error.2 hread, render_of_readText_error hread _⟩
  refine ⟨⟨?_, ?_⟩, ⟨?_, ?_⟩, hstumbles⟩
  · intro hsearch h
    obtain ⟨fault, hindexes, -⟩ := hstumbles h
    exact hsearch _ hindexes
  · intro hsteady failure h
    exact isSearchFailure_of_readText (placeholderIndexes_eq_error.1 h) hsteady
  · intro hsearch h
    obtain ⟨fault, -, hrender⟩ := hstumbles h
    exact hsearch _ hrender
  · intro hsteady failure h
    rcases render_eq_error h with hread | hsearch
    · exact isSearchFailure_of_readText hread hsteady
    · exact hsearch

/-- A superscript passes for the number of a parameter and then cannot be read as one. -/
theorem superscript_not_refused_as_search :
    ∃ failure, placeholderIndexes (.text "\x7b²\x7d") = .error failure ∧
      render (.text "\x7b²\x7d") [.text "uid=ben"] = .error failure ∧
      ¬ IsSearchFailure failure := by
  refine ⟨.value (.notInteger (.text "²")), ?_, ?_, fun h => h⟩
  · cbv
  · cbv

end GrantedRoles.SearchFilter
