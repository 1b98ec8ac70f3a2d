import GrantedRoles.SearchFilter.Render
import Mathlib.Data.List.TakeWhile

/-!
# The grammar of filter templates

Which texts are templates, said without reading them: characters that are no braces, doubled braces,
and placeholders whose name writes the index of a parameter. `Spells cs parts` says that the text
`cs` is such a sequence and stands for `parts`. Reading a template accepts exactly these texts
(`readText_eq_ok_iff`). A text that spells parts may stand before any other text: it is read first
and does not change how the rest is read (`Spells.exists_parse_append`).
-/

set_option autoImplicit false

namespace GrantedRoles.SearchFilter

open Text

/-- The character that ends the name of a placeholder. -/
def NameEnd.char : NameEnd → Char
  | brace => '}'
  | colon => ':'
  | mark => '!'

/-- What closes a placeholder after its name: the brace, with an empty format or a conversion that
asks for nothing before it. -/
def fieldEnds : List (List Char) :=
  [['}'], [':', '}'], ['!', '\x00', '}'], ['!', '\x00', ':', '}']]

/-- A name made of digits of any kind. -/
structure IsNumeral (name : List Char) : Prop where
  ne_nil : name ≠ []
  isDigit : ∀ c ∈ name, isDigit c = true

/-- A name that writes an index: one to `maxDigits` decimal digits. -/
structure WritesIndex (name : List Char) (index : Nat) : Prop where
  ne_nil : name ≠ []
  length_le : name.length ≤ maxDigits
  value : (decimalValues? name).map ofDecimals = some index

/-- The text stands for these parts of a filter. -/
inductive Spells : List Char → List Part → Prop where
  | nil : Spells [] []
  | openBrace {cs : List Char} {parts : List Part} :
      Spells cs parts → Spells ('{' :: '{' :: cs) (.char '{' :: parts)
  | closeBrace {cs : List Char} {parts : List Part} :
      Spells cs parts → Spells ('}' :: '}' :: cs) (.char '}' :: parts)
  | char {c : Char} {cs : List Char} {parts : List Part} :
      c ≠ '{' → c ≠ '}' → Spells cs parts → Spells (c :: cs) (.char c :: parts)
  | field {name ending cs : List Char} {index : Nat} {parts : List Part} :
      WritesIndex name index → ending ∈ fieldEnds → Spells cs parts →
        Spells ('{' :: (name ++ (ending ++ cs))) (.param index :: parts)

/-- The text starts as a template and then has a placeholder whose name is made of digits but writes
no index; nothing is wrong with the braces after it. -/
def Stumbles (cs : List Char) : Prop :=
  ∃ (start : List Char) (parts : List Part) (name ending rest : List Char) (pieces : List Piece),
    cs = start ++ '{' :: (name ++ (ending ++ rest)) ∧ Spells start parts ∧
      IsNumeral name ∧ (¬ ∃ index, WritesIndex name index) ∧ ending ∈ fieldEnds ∧
      Template.parse rest = .ok pieces

/-! ## Names of placeholders -/

theorem WritesIndex.isSome_decimalValue? {name : List Char} {index : Nat}
    (h : WritesIndex name index) : ∀ c ∈ name, (decimalValue? c).isSome := by
  apply isSome_decimalValues?_iff.1
  obtain ⟨digits, hdigits, -⟩ := Option.map_eq_some_iff.1 h.value
  simp [hdigits]

theorem WritesIndex.isNumeral {name : List Char} {index : Nat} (h : WritesIndex name index) :
    IsNumeral name :=
  ⟨h.ne_nil, fun c hc => isDigit_of_isSome_decimalValue? (h.isSome_decimalValue? c hc)⟩

/-- No digit means anything to the reader of a placeholder. -/
theorem IsNumeral.plain {name : List Char} (h : IsNumeral name) :
    ∀ c ∈ name, c ∉ ['{', '}', ':', '!', '['] := by
  intro c hc hmem
  have hdigit := h.isDigit c hc
  simp only [List.mem_cons, List.not_mem_nil, or_false] at hmem
  rcases hmem with rfl | rfl | rfl | rfl | rfl <;> revert hdigit <;> decide

/-! ## What the index of a placeholder is -/

theorem takeWhile_decimal {name : List Char} (h : ∀ c ∈ name, (decimalValue? c).isSome) :
    name.takeWhile (fun c => (decimalValue? c).isSome) = name :=
  List.takeWhile_eq_self_iff.2 fun c hc => h c hc

/-- A placeholder whose name writes an index, without format and conversion, has that index. -/
theorem Placeholder.index_of_writesIndex (template : String) {name : List Char} {index : Nat}
    (h : WritesIndex name index) :
    Placeholder.index template ⟨name, [], none⟩ = .ok index := by
  obtain ⟨digits, hdigits, rfl⟩ := Option.map_eq_some_iff.1 h.value
  have hall : name.all isDigit = true := List.all_eq_true.2 h.isNumeral.isDigit
  have hcount := takeWhile_decimal h.isSome_decimalValue?
  have hlen : ¬ maxDigits < name.length := Nat.not_lt.2 h.length_le
  simp [Placeholder.index, h.ne_nil, hall, hcount, hlen, hdigits]

/-- Three things can become of a placeholder: it has the index that its name writes; it is refused;
or its name is made of digits and yet writes no index, which only shows when the number is read. -/
theorem Placeholder.index_cases (template : String) (p : Placeholder) :
    (∃ index, p.index template = .ok index ∧ p.spec = [] ∧ p.conversion = none ∧
        WritesIndex p.name index) ∨
      (∃ fault, p.index template = .error (.search fault) ∧
        ¬ (IsNumeral p.name ∧ p.spec = [] ∧ p.conversion = none)) ∨
      (∃ fault, p.index template = .error (.value fault) ∧ p.spec = [] ∧ p.conversion = none ∧
        IsNumeral p.name ∧ ¬ ∃ index, WritesIndex p.name index) := by
  unfold Placeholder.index
  split
  -- The shape is looked at first: the name, the format and the conversion.
  · next hodd =>
    refine Or.inr (Or.inl ⟨_, rfl, ?_⟩)
    rintro ⟨hnumeral, hspec, hconversion⟩
    simp [hnumeral.ne_nil, List.all_eq_true.2 hnumeral.isDigit, hspec, hconversion] at hodd
  · next hplain =>
    simp only [Bool.or_eq_true, not_or, List.isEmpty_iff, Bool.not_eq_true, Bool.not_eq_false',
      Option.isSome_eq_false_iff, Option.isNone_iff_eq_none] at hplain
    obtain ⟨⟨⟨hne, hall⟩, hspec⟩, hconversion⟩ := hplain
    have hnumeral : IsNumeral p.name := ⟨hne, List.all_eq_true.1 hall⟩
    simp only
    split
    -- Too many digits are refused before any of them is read.
    · next hcount =>
      refine Or.inr (Or.inr ⟨_, rfl, hspec, hconversion, hnumeral, ?_⟩)
      rintro ⟨index, hindex⟩
      rw [takeWhile_decimal hindex.isSome_decimalValue?] at hcount
      exact absurd hcount (Nat.not_lt.2 hindex.length_le)
    · next hcount =>
      split
      -- A digit that is not decimal, such as a superscript, is found only now.
      · next hnone =>
        refine Or.inr (Or.inr ⟨_, rfl, hspec, hconversion, hnumeral, ?_⟩)
        rintro ⟨index, hindex⟩
        simpa [hnone] using hindex.value
      · next digits hdigits =>
        have hdec : ∀ c ∈ p.name, (decimalValue? c).isSome :=
          isSome_decimalValues?_iff.1 (by simp [hdigits])
        rw [takeWhile_decimal hdec] at hcount
        exact Or.inl ⟨_, rfl, hspec, hconversion, hne, Nat.not_lt.1 hcount, by simp [hdigits]⟩

/-! ## What the scans consume -/

/-- A name is what stands before the character that ends it. -/
theorem scanName_eq {bracketed : Bool} {cs name rest : List Char} {stop : NameEnd}
    (h : scanName bracketed cs = .ok (name, stop, rest)) : cs = name ++ stop.char :: rest := by
  induction cs generalizing bracketed name with
  | nil => simp [scanName] at h
  | cons c cs ih =>
    unfold scanName at h
    split at h
    · obtain ⟨⟨n, s, r⟩, hs, heq⟩ := exists_ok_of_map_ok h
      cases heq
      rw [ih hs, List.cons_append]
    · split at h
      · cases h
      · cases h; rfl
      · cases h; rfl
      · cases h; rfl
      · obtain ⟨⟨n, s, r⟩, hs, heq⟩ := exists_ok_of_map_ok h
        cases heq
        rw [ih hs, List.cons_append]

/-- A format is what stands before the brace that closes its placeholder. -/
theorem scanSpec_eq {depth : Nat} {cs spec rest : List Char}
    (h : scanSpec depth cs = .ok (spec, rest)) : cs = spec ++ '}' :: rest := by
  induction cs generalizing depth spec with
  | nil => simp [scanSpec] at h
  | cons c cs ih =>
    unfold scanSpec at h
    split at h
    · cases h; rfl
    all_goals
      obtain ⟨⟨s, r⟩, hs, heq⟩ := exists_ok_of_map_ok h
      cases heq
      rw [ih hs, List.cons_append]

/-- A conversion that asks for nothing is the NUL character. -/
theorem conversionOf_eq_none {c : Char} (h : conversionOf c = none) : c = '\x00' := by
  unfold conversionOf at h
  split at h
  · assumption
  · cases h

/-- A placeholder without format and conversion is its name and one of the `fieldEnds`. -/
theorem scanField_eq {cs rest : List Char} {p : Placeholder} (h : scanField cs = .ok (p, rest))
    (hspec : p.spec = []) (hconversion : p.conversion = none) :
    ∃ ending ∈ fieldEnds, cs = p.name ++ (ending ++ rest) := by
  unfold scanField at h
  split at h
  · cases h
  -- The name ends at the brace.
  · next hname =>
    cases h
    exact ⟨['}'], by simp [fieldEnds], scanName_eq hname⟩
  -- The name ends at a colon, and the format behind it is empty.
  · next hname =>
    obtain ⟨⟨spec, after⟩, hs, heq⟩ := exists_ok_of_map_ok h
    cases heq
    cases hspec
    refine ⟨[':', '}'], by simp [fieldEnds], ?_⟩
    rw [scanName_eq hname, scanSpec_eq hs]
    rfl
  · cases h
  · cases h
  -- The name ends at a mark, and the conversion behind it asks for nothing.
  · next hname =>
    cases h
    refine ⟨['!', '\x00', '}'], by simp [fieldEnds], ?_⟩
    rw [scanName_eq hname, conversionOf_eq_none hconversion]
    rfl
  · next hname =>
    obtain ⟨⟨spec, after⟩, hs, heq⟩ := exists_ok_of_map_ok h
    cases heq
    cases hspec
    refine ⟨['!', '\x00', ':', '}'], by simp [fieldEnds], ?_⟩
    rw [scanName_eq hname, scanSpec_eq hs, conversionOf_eq_none hconversion]
    rfl
  · cases h

/-- A name of digits is read to its end. -/
theorem scanName_of_plain {name : List Char} (h : ∀ c ∈ name, c ∉ ['{', '}', ':', '!', '['])
    (stop : NameEnd) (rest : List Char) :
    scanName false (name ++ stop.char :: rest) = .ok (name, stop, rest) := by
  induction name with
  | nil => cases stop <;> rfl
  | cons c name ih =>
    rw [List.forall_mem_cons] at h
    obtain ⟨hc, hname⟩ := h
    simp only [List.mem_cons, List.not_mem_nil, or_false, not_or] at hc
    obtain ⟨hopen, hclose, hcolon, hmark, hbracket⟩ := hc
    have hplain : (c == '[') = false := by simp [hbracket]
    rw [List.cons_append, scanName]
    · simp [hplain, ih hname, Except.map]
    · exact hopen
    · exact hclose
    · exact hcolon
    · exact hmark

/-- A name of digits with one of the `fieldEnds` is a placeholder without format and conversion. -/
theorem scanField_of_isNumeral {name ending : List Char} (h : IsNumeral name)
    (hending : ending ∈ fieldEnds) (rest : List Char) :
    scanField (name ++ (ending ++ rest)) = .ok (⟨name, [], none⟩, rest) := by
  have hname := scanName_of_plain h.plain
  simp only [fieldEnds, List.mem_cons, List.not_mem_nil, or_false] at hending
  rcases hending with rfl | rfl | rfl | rfl
  · have hscan : scanName false (name ++ '}' :: rest) = .ok (name, .brace, rest) :=
      hname .brace rest
    simp [scanField, hscan]
  · have hscan : scanName false (name ++ ':' :: '}' :: rest) = .ok (name, .colon, '}' :: rest) :=
      hname .colon ('}' :: rest)
    simp [scanField, hscan, scanSpec, Except.map]
  · have hscan : scanName false (name ++ '!' :: '\x00' :: '}' :: rest)
        = .ok (name, .mark, '\x00' :: '}' :: rest) := hname .mark ('\x00' :: '}' :: rest)
    simp [scanField, hscan, conversionOf]
  · have hscan : scanName false (name ++ '!' :: '\x00' :: ':' :: '}' :: rest)
        = .ok (name, .mark, '\x00' :: ':' :: '}' :: rest) :=
      hname .mark ('\x00' :: ':' :: '}' :: rest)
    simp [scanField, hscan, conversionOf, scanSpec, Except.map]

/-! ## Reading agrees with the grammar -/

theorem map_map_except {ε α β γ : Type} (x : Except ε α) (f : α → β) (g : β → γ) :
    (x.map f).map g = x.map fun a => g (f a) := by
  cases x <;> rfl

/-- What follows an opening brace is a placeholder if it reads as one. -/
theorem Template.parse_field {rest after : List Char} {p : Placeholder}
    (h : scanField rest = .ok (p, after)) :
    Template.parse ('{' :: rest) = (Template.parse after).map (.field p :: ·) := by
  rw [Template.parse]
  · split
    · next hfault => rw [h] at hfault; cases hfault
    · next hfield => rw [h] at hfield; cases hfield; rfl
  · rintro tail rfl
    simp [scanField, scanName] at h
  · rintro rfl
    simp [scanField, scanName] at h

/-- The pieces of a text that spells parts, read before whatever follows it: a piece for each part,
and the parts that these pieces stand for. -/
theorem Spells.exists_parse_append {cs : List Char} {parts : List Part} (h : Spells cs parts) :
    ∃ pieces : List Piece,
      (∀ tail, Template.parse (cs ++ tail) = (Template.parse tail).map (pieces ++ ·)) ∧
      ∀ template rest, partsOf template (pieces ++ rest)
        = (partsOf template rest).map (parts ++ ·) := by
  -- Along the spelling: each part is one piece, read off the front of the text.
  induction h with
  | nil =>
    refine ⟨[], fun tail => ?_, fun template rest => ?_⟩
    · cases h : Template.parse tail <;> simp [h, Except.map]
    · cases h : partsOf template rest <;> simp [h, Except.map]
  | openBrace _ ih =>
    obtain ⟨pieces, hparse, hparts⟩ := ih
    refine ⟨.char '{' :: pieces, fun tail => ?_, fun template rest => ?_⟩
    · rw [List.cons_append, List.cons_append, Template.parse, hparse, map_map_except]
      rfl
    · rw [List.cons_append, partsOf, hparts, map_map_except]
      rfl
  | closeBrace _ ih =>
    obtain ⟨pieces, hparse, hparts⟩ := ih
    refine ⟨.char '}' :: pieces, fun tail => ?_, fun template rest => ?_⟩
    · rw [List.cons_append, List.cons_append, Template.parse, hparse, map_map_except]
      rfl
    · rw [List.cons_append, partsOf, hparts, map_map_except]
      rfl
  | @char c cs parts hopen hclose _ ih =>
    obtain ⟨pieces, hparse, hparts⟩ := ih
    refine ⟨.char c :: pieces, fun tail => ?_, fun template rest => ?_⟩
    · rw [List.cons_append, Template.parse, hparse, map_map_except]
      · rfl
      all_goals simp_all
    · rw [List.cons_append, partsOf, hparts, map_map_except]
      rfl
  | @field name ending cs index parts hindex hending _ ih =>
    obtain ⟨pieces, hparse, hparts⟩ := ih
    refine ⟨.field ⟨name, [], none⟩ :: pieces, fun tail => ?_, fun template rest => ?_⟩
    · have hscan := scanField_of_isNumeral hindex.isNumeral hending (cs ++ tail)
      rw [List.cons_append, List.append_assoc, List.append_assoc,
        Template.parse_field hscan, hparse, map_map_except]
      rfl
    · rw [List.cons_append, partsOf, Placeholder.index_of_writesIndex template hindex]
      simp only [hparts, map_map_except]
      rfl

/-- Two texts that spell parts spell them one after the other. -/
theorem Spells.append {cs ds : List Char} {parts others : List Part} (h : Spells cs parts)
    (h' : Spells ds others) : Spells (cs ++ ds) (parts ++ others) := by
  induction h with
  | nil => exact h'
  | openBrace _ ih => exact .openBrace ih
  | closeBrace _ ih => exact .closeBrace ih
  | char hopen hclose _ ih => exact .char hopen hclose ih
  | field hindex hending _ ih =>
    rw [List.cons_append, List.append_assoc, List.append_assoc]
    exact .field hindex hending ih

theorem Stumbles.prepend {cs ds : List Char} {parts : List Part} (h : Spells cs parts)
    (h' : Stumbles ds) : Stumbles (cs ++ ds) := by
  obtain ⟨start, others, name, ending, rest, pieces, rfl, hstart, htail⟩ := h'
  exact ⟨cs ++ start, parts ++ others, name, ending, rest, pieces,
    (List.append_assoc ..).symm, h.append hstart, htail⟩

/-- What reading a text can come to: the parts that it spells; a search that is refused; or a
number that cannot be read, which happens to the texts that stumble. -/
inductive Reading (cs : List Char) : Except Failure (List Part) → Prop where
  | spelled {parts : List Part} : Spells cs parts → Reading cs (.ok parts)
  | refused (fault : SearchFault) : Reading cs (.error (.search fault))
  | stumbled (fault : ValueFault) : Stumbles cs → Reading cs (.error (.value fault))

/-- A text that spells parts may stand before one that is read. -/
theorem Reading.prepend {cs ds : List Char} {parts : List Part}
    {outcome : Except Failure (List Part)} (h : Spells cs parts) (h' : Reading ds outcome) :
    Reading (cs ++ ds) (outcome.map (parts ++ ·)) := by
  cases h' with
  | spelled hds => exact .spelled (h.append hds)
  | refused fault => exact .refused fault
  | stumbled fault hds => exact .stumbled fault (.prepend h hds)

/-- The pieces of a well-braced text are read as the grammar says. -/
theorem reading_partsOf (template : String) {cs : List Char} {pieces : List Piece}
    (h : Template.parse cs = .ok pieces) : Reading cs (partsOf template pieces) := by
  -- Induction on the reading: a piece either spells a part, which then stands before what the rest
  -- comes to, or it ends the reading.
  fun_induction Template.parse cs generalizing pieces with
  | case1 =>
    cases h
    exact .spelled .nil
  | case2 rest ih =>
    obtain ⟨tail, htail, rfl⟩ := exists_ok_of_map_ok h
    exact (ih htail).prepend (.openBrace .nil)
  | case3 rest ih =>
    obtain ⟨tail, htail, rfl⟩ := exists_ok_of_map_ok h
    exact (ih htail).prepend (.closeBrace .nil)
  | case4 => cases h
  | case5 => cases h
  | case6 => cases h
  | case7 rest _ _ p after hscan _ ih =>
    obtain ⟨tail, htail, rfl⟩ := exists_ok_of_map_ok h
    rw [partsOf]
    rcases p.index_cases template with
      ⟨index, hindex, hspec, hconversion, hwrites⟩ | ⟨fault, hindex, -⟩ |
        ⟨fault, hindex, hspec, hconversion, hnumeral, hwrites⟩
    · obtain ⟨ending, hending, rfl⟩ := scanField_eq hscan hspec hconversion
      have hfield := Spells.field hwrites hending .nil
      rw [hindex]
      simpa using (ih htail).prepend hfield
    · rw [hindex]
      exact .refused fault
    · obtain ⟨ending, hending, rfl⟩ := scanField_eq hscan hspec hconversion
      rw [hindex]
      exact .stumbled fault
        ⟨[], [], p.name, ending, after, tail, rfl, .nil, hnumeral, hwrites, hending, htail⟩
  | case8 c rest _ _ hclose _ hopen ih =>
    obtain ⟨tail, htail, rfl⟩ := exists_ok_of_map_ok h
    exact (ih htail).prepend (.char hopen hclose .nil)

/-- Every text is read as the grammar says. -/
theorem reading_readText (template : String) : Reading template.toList (readText template) := by
  unfold readText
  split
  · exact .refused _
  · next h => exact reading_partsOf template h

/-- **Reading accepts exactly the texts of the grammar**, as the parts that they spell. -/
theorem readText_eq_ok_iff {template : String} {parts : List Part} :
    readText template = .ok parts ↔ Spells template.toList parts := by
  constructor
  · intro h
    have hreading := reading_readText template
    rw [h] at hreading
    cases hreading with
    | spelled hspells => exact hspells
  · intro h
    obtain ⟨pieces, hparse, hparts⟩ := h.exists_parse_append
    have hall : Template.parse template.toList = .ok pieces := by
      have := hparse []
      simpa [Template.parse, Except.map] using this
    have hread := hparts template []
    rw [List.append_nil] at hread
    rw [readText, hall]
    simpa [partsOf, Except.map] using hread

/-- **A text stumbles exactly when reading it fails at a number.** -/
theorem readText_eq_value_iff {template : String} :
    (∃ fault, readText template = .error (.value fault)) ↔ Stumbles template.toList := by
  constructor
  · rintro ⟨fault, h⟩
    have hreading := reading_readText template
    rw [h] at hreading
    cases hreading with
    | stumbled _ hstumbles => exact hstumbles
  · rintro ⟨start, parts, name, ending, rest, tail, heq, hstart, hnumeral, hwrites, hending, htail⟩
    obtain ⟨pieces, hparse, hparts⟩ := hstart.exists_parse_append
    have hscan := scanField_of_isNumeral hnumeral hending rest
    -- The braces are read to the end before the number is looked at.
    have hall : Template.parse template.toList
        = .ok (pieces ++ .field ⟨name, [], none⟩ :: tail) := by
      rw [heq, hparse, Template.parse_field hscan, htail]
      rfl
    rcases Placeholder.index_cases template ⟨name, [], none⟩ with
      ⟨index, -, -, -, hindex⟩ | ⟨-, -, hodd⟩ | ⟨fault, hindex, -⟩
    · exact absurd ⟨index, hindex⟩ hwrites
    · exact absurd ⟨hnumeral, rfl, rfl⟩ hodd
    · refine ⟨fault, ?_⟩
      rw [readText, hall]
      simp only
      rw [hparts, partsOf, hindex]
      rfl

end GrantedRoles.SearchFilter
