import GrantedRoles.Text.Digits

/-!
# Filter templates

A filter template is text with numbered placeholders: `{0}` stands for the first parameter, and a
doubled brace for the brace itself. `Template.parse` reads a template into its pieces or tells
what is wrong with its braces; what a placeholder may hold is judged later, in
`SearchFilter.Render`.
-/

set_option autoImplicit false

namespace GrantedRoles.SearchFilter

/-- What is wrong with the braces of a template. -/
inductive TemplateFault where
  | loneOpen
  | loneClose
  | openInName
  | unclosedField
  | noConversion
  | noColon
  | unclosedSpec
  deriving DecidableEq, Repr

/-- The fault in words. -/
def TemplateFault.message : TemplateFault → String
  | loneOpen => "Single '\x7b' encountered in format string"
  | loneClose => "Single '\x7d' encountered in format string"
  | openInName => "unexpected '\x7b' in field name"
  | unclosedField => "expected '\x7d' before end of string"
  | noConversion => "end of string while looking for conversion specifier"
  | noColon => "expected ':' after conversion specifier"
  | unclosedSpec => "unmatched '\x7b' in format spec"

/-- A placeholder: its name, the format after a colon and the conversion after an exclamation
mark. -/
structure Placeholder where
  name : List Char
  spec : List Char := []
  conversion : Option Char := none
  deriving DecidableEq, Repr

/-- A piece of a template: a character of the filter, or a placeholder. -/
inductive Piece where
  | char (c : Char)
  | field (p : Placeholder)
  deriving DecidableEq, Repr

/-- What ends the name of a placeholder. -/
inductive NameEnd where
  | brace
  | colon
  | mark
  deriving DecidableEq, Repr

/-- Reads the name of a placeholder up to what ends it. Between square brackets nothing ends it. -/
def scanName (bracketed : Bool) :
    List Char → Except TemplateFault (List Char × NameEnd × List Char)
  | [] => .error .unclosedField
  | c :: rest =>
      if bracketed then
        (scanName (c != ']') rest).map fun (name, stop, after) => (c :: name, stop, after)
      else
        match c with
        | '{' => .error .openInName
        | '}' => .ok ([], .brace, rest)
        | ':' => .ok ([], .colon, rest)
        | '!' => .ok ([], .mark, rest)
        | _ => (scanName (c == '[') rest).map fun (name, stop, after) => (c :: name, stop, after)

/-- Reads a format up to the brace that closes its placeholder, `depth` braces being open in it. -/
def scanSpec (depth : Nat) : List Char → Except TemplateFault (List Char × List Char)
  | [] => .error .unclosedSpec
  | c :: rest =>
      match c, depth with
      | '}', 0 => .ok ([], rest)
      | '}', depth + 1 => (scanSpec depth rest).map fun (spec, after) => (c :: spec, after)
      | '{', depth => (scanSpec (depth + 1) rest).map fun (spec, after) => (c :: spec, after)
      | _, depth => (scanSpec depth rest).map fun (spec, after) => (c :: spec, after)

/-- The conversion that a character after the exclamation mark asks for; NUL asks for none. -/
def conversionOf (c : Char) : Option Char := if c = '\x00' then none else some c

/-- Reads a placeholder after its opening brace. -/
def scanField (cs : List Char) : Except TemplateFault (Placeholder × List Char) :=
  match scanName false cs with
  | .error fault => .error fault
  | .ok (name, .brace, rest) => .ok (⟨name, [], none⟩, rest)
  | .ok (name, .colon, rest) =>
      (scanSpec 0 rest).map fun (spec, after) => (⟨name, spec, none⟩, after)
  | .ok (_, .mark, []) => .error .noConversion
  | .ok (_, .mark, [_]) => .error .unclosedSpec
  | .ok (name, .mark, c :: '}' :: rest) => .ok (⟨name, [], conversionOf c⟩, rest)
  | .ok (name, .mark, c :: ':' :: rest) =>
      (scanSpec 0 rest).map fun (spec, after) => (⟨name, spec, conversionOf c⟩, after)
  | .ok (_, .mark, _) => .error .noColon

/-! ## Nothing is read twice -/

/-- A mapped result is the map of a result. -/
theorem exists_ok_of_map_ok {ε α β : Type} {x : Except ε α} {f : α → β} {b : β}
    (h : x.map f = .ok b) : ∃ a, x = .ok a ∧ f a = b := by
  cases x with
  | error e => cases h
  | ok a => exact ⟨a, rfl, Except.ok.inj h⟩

/-- A mapped result fails as the result does. -/
theorem map_eq_error_iff {ε α β : Type} {x : Except ε α} {f : α → β} {e : ε} :
    x.map f = .error e ↔ x = .error e := by
  cases x <;> simp [Except.map]

theorem scanName_length {bracketed : Bool} {cs name rest : List Char} {stop : NameEnd}
    (h : scanName bracketed cs = .ok (name, stop, rest)) : rest.length < cs.length := by
  induction cs generalizing bracketed name with
  | nil => simp [scanName] at h
  | cons c cs ih =>
    unfold scanName at h
    split at h
    · obtain ⟨⟨n, s, r⟩, hs, heq⟩ := exists_ok_of_map_ok h
      cases heq
      exact Nat.lt_succ_of_lt (ih hs)
    · split at h
      · cases h
      · cases h; simp
      · cases h; simp
      · cases h; simp
      · obtain ⟨⟨n, s, r⟩, hs, heq⟩ := exists_ok_of_map_ok h
        cases heq
        exact Nat.lt_succ_of_lt (ih hs)

theorem scanSpec_length {depth : Nat} {cs spec rest : List Char}
    (h : scanSpec depth cs = .ok (spec, rest)) : rest.length < cs.length := by
  induction cs generalizing depth spec with
  | nil => simp [scanSpec] at h
  | cons c cs ih =>
    unfold scanSpec at h
    split at h
    · cases h; simp
    all_goals
      obtain ⟨⟨s, r⟩, hs, heq⟩ := exists_ok_of_map_ok h
      cases heq
      exact Nat.lt_succ_of_lt (ih hs)

theorem scanField_length {cs rest : List Char} {p : Placeholder}
    (h : scanField cs = .ok (p, rest)) : rest.length < cs.length := by
  have spec : ∀ {tail : List Char} {name : List Char} {conversion : Option Char},
      (scanSpec 0 tail).map (fun s => ((⟨name, s.1, conversion⟩ : Placeholder), s.2))
        = .ok (p, rest) → rest.length < tail.length := by
    intro tail name conversion hs
    obtain ⟨⟨s, r⟩, hr, heq⟩ := exists_ok_of_map_ok hs
    cases heq
    exact scanSpec_length hr
  unfold scanField at h
  split at h
  · cases h
  · next hn => cases h; exact scanName_length hn
  · next hn => exact Nat.lt_trans (spec h) (scanName_length hn)
  · cases h
  · cases h
  · next hn =>
    cases h
    have := scanName_length hn
    simp only [List.length_cons] at this
    omega
  · next hn =>
    have := spec h
    have := scanName_length hn
    simp only [List.length_cons] at this
    omega
  · cases h

/-- The pieces of a template, from left to right. -/
def Template.parse : List Char → Except TemplateFault (List Piece)
  | [] => .ok []
  | '{' :: '{' :: rest => (Template.parse rest).map (.char '{' :: ·)
  | '}' :: '}' :: rest => (Template.parse rest).map (.char '}' :: ·)
  | '}' :: _ => .error .loneClose
  | ['{'] => .error .loneOpen
  | '{' :: rest =>
      match h : scanField rest with
      | .error fault => .error fault
      | .ok (field, after) =>
          have := scanField_length h
          (Template.parse after).map (.field field :: ·)
  | c :: rest => (Template.parse rest).map (.char c :: ·)
termination_by cs => cs.length

end GrantedRoles.SearchFilter
