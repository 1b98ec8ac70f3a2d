import GrantedRoles.Proofs.SearchFilter.Grammar
import Mathlib.Data.List.Basic

/-!
# Admitting and formatting a template

A template is read twice. It is admitted by its placeholders, whose names are digits and are read as
numbers; then it is formatted, which counts the index of each placeholder again, by a rule of its
own. `format?_of_readText` says that formatting a template that was admitted never fails and takes
the arguments at the indexes that it was admitted with. So a filter is rendered exactly for the
texts of the grammar with enough parameters, and is the text of its parts (`render_iff_template`).
-/

set_option autoImplicit false

namespace GrantedRoles.SearchFilter

open Text

/-- The text is a template for `count` parameters and stands for these parts. -/
structure IsTemplate (count : Nat) (cs : List Char) (parts : List Part) : Prop where
  spells : Spells cs parts
  supplied : ∀ index ∈ references parts, index < count

/-! ## Parts of a filter -/

/-- A part of a filter, with the regions of the parameters given by index. -/
def Part.shown (region : Nat → List Char) : Part → List Char
  | .char c => [c]
  | .param index => region index

/-- The filter of parts: its characters, and the escaped parameters in their places. -/
def fill (parts : List Part) (escaped : List String) : String :=
  String.ofList (parts.flatMap (Part.shown fun index => (escaped.getD index "").toList))

/-- The filter of parts has them in order, a parameter as it is escaped. -/
theorem toList_fill (parts : List Part) (escaped : List String) :
    (fill parts escaped).toList
      = parts.flatMap (Part.shown fun index => (escaped.getD index "").toList) :=
  String.toList_ofList

theorem mem_references {parts : List Part} {index : Nat} :
    index ∈ references parts ↔ Part.param index ∈ parts := by
  rw [references, List.mem_filterMap]
  constructor
  · rintro ⟨part, hpart, heq⟩
    cases part with
    | char c => cases heq
    | param i =>
      cases heq
      exact hpart
  · intro h
    exact ⟨.param index, h, rfl⟩

/-! ## Counting an index -/

/-- Counting an index and reading it as a number agree. -/
theorem countIndex?_of_decimalValues? {cs : List Char} {digits : List Nat}
    (h : decimalValues? cs = some digits) (n : Nat) :
    countIndex? n cs = some (digits.foldl (fun n d => n * 10 + d) n) := by
  induction cs generalizing digits n with
  | nil =>
    cases h
    rfl
  | cons c rest ih =>
    unfold decimalValues? at h
    split at h
    · next d ds hc hrest =>
      cases h
      rw [countIndex?, hc, Option.bind_some, List.foldl_cons]
      exact ih hrest _
    · cases h

/-- A name that writes an index is counted as that index. -/
theorem WritesIndex.indexOf?_eq {name : List Char} {index : Nat} (h : WritesIndex name index) :
    indexOf? name = some index := by
  obtain ⟨digits, hdigits, rfl⟩ := Option.map_eq_some_iff.1 h.value
  have hne : name.isEmpty = false := by simp [h.ne_nil]
  rw [indexOf?, hne]
  exact countIndex?_of_decimalValues? hdigits 0

/-! ## Formatting what was admitted -/

/-- A placeholder that was admitted stands for the argument at its index. -/
theorem Placeholder.argument?_of_index {template : String} {p : Placeholder} {index : Nat}
    (h : p.index template = .ok index) {args : List String} (hlt : index < args.length) :
    p.argument? args = some args[index] := by
  rcases p.index_cases template with
    ⟨i, hi, hspec, hconversion, hwrites⟩ | ⟨fault, hfault, -⟩ | ⟨fault, hfault, -⟩
  · rw [h] at hi
    cases hi
    simp [argument?, hspec, hconversion, hwrites.indexOf?_eq, hlt]
  · rw [h] at hfault
    cases hfault
  · rw [h] at hfault
    cases hfault

/-- Pieces that were admitted are formatted as the parts that they were admitted as. -/
theorem formatPieces?_of_partsOf {template : String} {pieces : List Piece} {parts : List Part}
    (h : partsOf template pieces = .ok parts) {args : List String}
    (hsupplied : ∀ index ∈ references parts, index < args.length) :
    formatPieces? args pieces
      = some (parts.flatMap (Part.shown fun index => (args.getD index "").toList)) := by
  induction pieces generalizing parts with
  | nil =>
    cases h
    rfl
  | cons piece rest ih =>
    cases piece with
    | char c =>
      obtain ⟨tail, htail, rfl⟩ := exists_ok_of_map_ok h
      rw [formatPieces?, ih htail hsupplied]
      rfl
    | field p =>
      rw [partsOf] at h
      cases hindex : p.index template with
      | error failure =>
        rw [hindex] at h
        cases h
      | ok index =>
        rw [hindex] at h
        obtain ⟨tail, htail, rfl⟩ := exists_ok_of_map_ok h
        have hlt : index < args.length := hsupplied index List.mem_cons_self
        have hrest := ih htail fun i hi => hsupplied i (List.mem_cons_of_mem index hi)
        rw [formatPieces?, Placeholder.argument?_of_index hindex hlt, hrest]
        simp [Part.shown, hlt]

/-- **Formatting agrees with admitting.** A template that was admitted with enough arguments is
formatted as its parts. -/
theorem format?_of_readText {template : String} {parts : List Part}
    (h : readText template = .ok parts) {args : List String}
    (hsupplied : ∀ index ∈ references parts, index < args.length) :
    Template.format? template args = some (fill parts args) := by
  unfold readText at h
  split at h
  · cases h
  · next pieces hparse =>
    rw [Template.format?, hparse]
    simp only
    rw [formatPieces?_of_partsOf h hsupplied]
    rfl

/-! ## Rendering -/

/-- A parameter is escaped to one text. -/
theorem length_of_escapeAll {params : List Value} {escaped : List String}
    (h : escapeAll params = .ok escaped) : escaped.length = params.length := by
  induction params generalizing escaped with
  | nil =>
    cases h
    rfl
  | cons param rest ih =>
    rw [escapeAll] at h
    cases hparam : escape param with
    | error failure =>
      rw [hparam] at h
      cases h
    | ok s =>
      rw [hparam] at h
      obtain ⟨tail, htail, rfl⟩ := exists_ok_of_map_ok h
      rw [List.length_cons, List.length_cons, ih htail]

/-- A template that was admitted, with enough parameters, is rendered as its parts with the
parameters as they are escaped, or it fails as escaping them does. -/
theorem render_of_readText {template : String} {parts : List Part} {params : List Value}
    (h : readText template = .ok parts)
    (hsupplied : ∀ index ∈ references parts, index < params.length) :
    render (.text template) params = (escapeAll params).map (fill parts) := by
  have hread : read (.text template) = .ok parts := h
  have hmissing : (references parts).filter (params.length ≤ ·) = [] := by
    apply List.filter_eq_nil_iff.2
    intro index hindex
    simpa using hsupplied index hindex
  simp only [render, hread, hmissing]
  cases hescaped : escapeAll params with
  | error failure => rfl
  | ok escaped =>
    have hformat : Template.format? template escaped = some (fill parts escaped) :=
      format?_of_readText h (by rwa [length_of_escapeAll hescaped])
    simp [hformat, bind, Except.bind, Except.map]

/-- A template is rendered once its parameters are escaped and there are enough of them. -/
theorem render_of_spells {template : String} {parts : List Part} {params : List Value}
    {escaped : List String} (h : Spells template.toList parts)
    (hescaped : escapeAll params = .ok escaped)
    (hsupplied : ∀ index ∈ references parts, index < params.length) :
    render (.text template) params = .ok (fill parts escaped) := by
  rw [render_of_readText (readText_eq_ok_iff.2 h) hsupplied, hescaped]
  rfl

/-- Rendering with texts succeeds only for templates of the grammar with enough parameters. -/
theorem isTemplate_of_render {template filter : String} {params : List String}
    (h : render (.text template) (params.map .text) = .ok filter) :
    ∃ parts, IsTemplate params.length template.toList parts := by
  have hread : read (.text template) = readText template := rfl
  rw [render, hread] at h
  cases hparts : readText template with
  | error failure =>
    rw [hparts] at h
    cases h
  | ok parts =>
    rw [hparts] at h
    simp only [List.length_map] at h
    split at h
    · next hmissing =>
      refine ⟨parts, readText_eq_ok_iff.1 hparts, ?_⟩
      intro index hindex
      have := List.filter_eq_nil_iff.1 hmissing index hindex
      simpa using this
    · cases h

/-- **Rendering accepts exactly the grammar.** A filter is rendered exactly when the template is a
sequence of characters that are no braces, doubled braces and placeholders whose names write
indexes of parameters; what the parameters hold does not matter. The indexes that are answered for
the template are then those of its placeholders, and the filter has the parts of the template in
order, with the escaped parameter at each placeholder. It is what formatting the template with the
escaped parameters gives. -/
theorem render_iff_template (template : String) (params : List String) :
    ((∃ filter, render (.text template) (params.map .text) = .ok filter) ↔
        ∃ parts, IsTemplate params.length template.toList parts) ∧
      ∀ parts, IsTemplate params.length template.toList parts →
        (∃ indexes, placeholderIndexes (.text template) = .ok indexes ∧
          ∀ index, index ∈ indexes ↔ index ∈ references parts) ∧
        ∃ filter, render (.text template) (params.map .text) = .ok filter ∧
          filter.toList = parts.flatMap (Part.shown fun index =>
            (escapeText (params.getD index "")).toList) ∧
          Template.format? template (params.map escapeText) = some filter := by
  have hrendered : ∀ parts, IsTemplate params.length template.toList parts →
      render (.text template) (params.map .text)
        = .ok (fill parts (params.map escapeText)) := by
    intro parts h
    exact render_of_spells h.spells (escapeAll_texts params) (by simpa using h.supplied)
  refine ⟨⟨?_, ?_⟩, ?_⟩
  · rintro ⟨filter, h⟩
    exact isTemplate_of_render h
  · rintro ⟨parts, h⟩
    exact ⟨_, hrendered parts h⟩
  · intro parts h
    have hread := readText_eq_ok_iff.2 h.spells
    refine ⟨⟨ascending (references parts), ?_, fun index => by simp [ascending]⟩, _,
      hrendered parts h, ?_, format?_of_readText hread (by simpa using h.supplied)⟩
    · have hadmitted : read (.text template) = .ok parts := hread
      rw [placeholderIndexes, hadmitted]
      rfl
    · rw [toList_fill]
      apply List.flatMap_congr
      intro part hpart
      cases part with
      | char c => simp only [Part.shown]
      | param index =>
        have hlt := h.supplied index (mem_references.2 hpart)
        simp [Part.shown, hlt]

/-- A template with a placeholder between doubled braces, and one with a digit of another script, a
leading zero and an empty format. -/
def mixedTemplate : String := "\x7b\x7b\x7b0\x7d\x7d\x7d(u=\x7b0١:\x7d)"

-- Evaluating the digit of the other script looks through the tables of digits.
set_option maxRecDepth 4000 in
theorem render_iff_template_mixed :
    let parts : List Part :=
      [.char '\x7b', .param 0, .char '\x7d', .char '(', .char 'u', .char '=', .param 1, .char ')']
    IsTemplate ["*", "ben"].length mixedTemplate.toList parts ∧
      render (.text mixedTemplate) (["*", "ben"].map .text) = .ok "\x7b\\2a\x7d(u=ben)" ∧
      Template.format? mixedTemplate (["*", "ben"].map escapeText)
        = some "\x7b\\2a\x7d(u=ben)" := by
  intro parts
  have hread : readText mixedTemplate = .ok parts := by cbv
  have htemplate : IsTemplate ["*", "ben"].length mixedTemplate.toList parts :=
    ⟨readText_eq_ok_iff.1 hread, by decide⟩
  obtain ⟨-, filter, hrender, hlayout, hformat⟩ :=
    (render_iff_template mixedTemplate ["*", "ben"]).2 parts htemplate
  have hfilter : filter = "\x7b\\2a\x7d(u=ben)" := by
    apply String.toList_inj.1
    exact hlayout.trans (by decide)
  subst hfilter
  exact ⟨htemplate, hrender, hformat⟩

end GrantedRoles.SearchFilter
