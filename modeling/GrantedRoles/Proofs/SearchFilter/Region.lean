import GrantedRoles.Proofs.SearchFilter.Formatting
import Mathlib.Data.List.Permutation

/-!
# Parameters inside a filter

What a parameter becomes in a filter is a region of its own: none of the characters that structure
a filter stands in it, each backslash in it starts two hexadecimal digits, and reading these
escapes back gives the octets of the parameter (`decodeEscapes?`). A rendered filter is the text of
its template with such a region at each placeholder (`render_embeds`), so the characters that
structure it are those of the template, whatever the parameters hold.
-/

set_option autoImplicit false

namespace GrantedRoles.SearchFilter

open Text

/-- Structures a filter unless it is escaped. -/
def isMeta (c : Char) : Bool := c == '(' || c == ')' || c == '*' || c == '\x00'

/-- The value of a hexadecimal digit. -/
def hexValue? (c : Char) : Option Nat :=
  if '0' ≤ c && c ≤ '9' then some (c.toNat - '0'.toNat)
  else if 'a' ≤ c && c ≤ 'f' then some (c.toNat - 'a'.toNat + 10)
  else if 'A' ≤ c && c ≤ 'F' then some (c.toNat - 'A'.toNat + 10)
  else none

/-- The octets that a region of a filter stands for: an escape is one octet, any other character is
its UTF-8 encoding. A backslash that starts no escape is refused, and so is what structures the
filter. -/
def decodeEscapes? : List Char → Option (List UInt8)
  | [] => some []
  | '\\' :: high :: low :: rest =>
      match hexValue? high, hexValue? low with
      | some h, some l => (decodeEscapes? rest).map (UInt8.ofNat (16 * h + l) :: ·)
      | _, _ => none
  | c :: rest =>
      if c = '\\' || isMeta c then none
      else (decodeEscapes? rest).map (String.utf8EncodeChar c ++ ·)

/-- The octets of a parameter that is a text or an octet string. -/
def writtenOctets? : Value → Option (List UInt8)
  | .text s => some (utf8 s)
  | .scope s => some (utf8 s.word)
  | .octets octets _ => some octets
  | _ => none

/-- The characters that structure a filter, in order. An escaped one is written in hexadecimal
digits and so is none of them. -/
def outline (filter : String) : List Char := filter.toList.filter isMeta

/-- A piece of a filter that structures nothing, in which each backslash starts an escape, and which
stands for these octets. -/
structure Region (region : List Char) (octets : List UInt8) : Prop where
  plain : ∀ c ∈ region, isMeta c = false
  escapes : ∀ before after, region = before ++ '\\' :: after →
    ∃ high low rest, after = high :: low :: rest ∧ (hexValue? high).isSome ∧ (hexValue? low).isSome
  decoded : decodeEscapes? region = some octets

/-- The filter has these parts, with a region for the octets of each parameter that they refer
to. -/
def Embeds (parts : List Part) (params : List Value) (filter : String) : Prop :=
  ∃ region : Nat → List Char,
    filter.toList = parts.flatMap (Part.shown region) ∧
      ∀ index ∈ references parts, ∃ octets,
        params[index]?.bind writtenOctets? = some octets ∧ Region (region index) octets

/-! ## Reading escapes back -/

theorem isMeta_of_hexValue? {c : Char} {n : Nat} (h : hexValue? c = some n) : isMeta c = false := by
  by_contra hmeta
  simp only [isMeta, Bool.not_eq_false, Bool.or_eq_true, beq_iff_eq] at hmeta
  rcases hmeta with ((rfl | rfl) | rfl) | rfl <;> cases h

/-- A region that is read back structures nothing. -/
theorem isMeta_of_decodeEscapes? {region : List Char} {octets : List UInt8}
    (h : decodeEscapes? region = some octets) : ∀ c ∈ region, isMeta c = false := by
  fun_induction decodeEscapes? region generalizing octets with
  | case1 => simp
  | case2 high low rest m n hlow hhigh ih =>
    obtain ⟨tail, htail, -⟩ := Option.map_eq_some_iff.1 h
    simp only [List.forall_mem_cons]
    exact ⟨rfl, isMeta_of_hexValue? hhigh, isMeta_of_hexValue? hlow, ih htail⟩
  | case3 => cases h
  | case4 => cases h
  | case5 c rest _ hplain ih =>
    obtain ⟨tail, htail, -⟩ := Option.map_eq_some_iff.1 h
    simp only [Bool.or_eq_true, decide_eq_true_eq, not_or, Bool.not_eq_true] at hplain
    exact List.forall_mem_cons.2 ⟨hplain.2, ih htail⟩

/-- In a region that is read back each backslash starts an escape. -/
theorem escape_of_decodeEscapes? {region : List Char} {octets : List UInt8}
    (h : decodeEscapes? region = some octets) (before after : List Char)
    (heq : region = before ++ '\\' :: after) :
    ∃ high low rest, after = high :: low :: rest ∧ (hexValue? high).isSome ∧
      (hexValue? low).isSome := by
  have hdigit : ∀ {c : Char} {n : Nat}, hexValue? c = some n → c ≠ '\\' := by
    rintro c n hc rfl
    cases hc
  fun_induction decodeEscapes? region generalizing octets before with
  | case1 => simp at heq
  | case2 high low rest m n hlow hhigh ih =>
    obtain ⟨tail, htail, -⟩ := Option.map_eq_some_iff.1 h
    -- The backslash is the one at the head, or it lies behind both digits.
    match before, heq with
    | [], heq =>
      cases heq
      exact ⟨high, low, rest, rfl, by simp [hhigh], by simp [hlow]⟩
    | [_], heq =>
      cases heq
      exact absurd rfl (hdigit hhigh)
    | [_, _], heq =>
      cases heq
      exact absurd rfl (hdigit hlow)
    | _ :: _ :: _ :: before, heq =>
      cases heq
      exact ih htail before rfl
  | case3 => cases h
  | case4 => cases h
  | case5 c rest _ hplain ih =>
    obtain ⟨tail, htail, -⟩ := Option.map_eq_some_iff.1 h
    cases before with
    | nil =>
      cases heq
      simp at hplain
    | cons b before =>
      cases heq
      exact ih htail before rfl

theorem region_of_decodeEscapes? {region : List Char} {octets : List UInt8}
    (h : decodeEscapes? region = some octets) : Region region octets :=
  ⟨isMeta_of_decodeEscapes? h, escape_of_decodeEscapes? h, h⟩

/-- Regions one after the other are read back one after the other. -/
theorem decodeEscapes?_append {region other : List Char} {octets : List UInt8}
    (h : decodeEscapes? region = some octets) :
    decodeEscapes? (region ++ other) = (decodeEscapes? other).map (octets ++ ·) := by
  fun_induction decodeEscapes? region generalizing octets with
  | case1 =>
    cases h
    simp
  | case2 high low rest m n hlow hhigh ih =>
    obtain ⟨tail, htail, rfl⟩ := Option.map_eq_some_iff.1 h
    simp only [List.cons_append, decodeEscapes?, hhigh, hlow]
    rw [ih htail, Option.map_map]
    rfl
  | case3 => cases h
  | case4 => cases h
  | case5 c rest hescape hplain ih =>
    obtain ⟨tail, htail, rfl⟩ := Option.map_eq_some_iff.1 h
    have hbackslash : c ≠ '\\' := by
      rintro rfl
      simp at hplain
    rw [List.cons_append, decodeEscapes?, if_neg hplain, ih htail, Option.map_map]
    · simp only [Function.comp_def, List.append_assoc]
    · -- What follows cannot make an escape of a character that is no backslash.
      rintro high low tail' rfl
      exact absurd rfl hbackslash

/-- What is written piece by piece is read back piece by piece. -/
theorem decodeEscapes?_flatMap {α : Type} {write : α → List Char} {octets : α → List UInt8}
    {items : List α} (h : ∀ a ∈ items, decodeEscapes? (write a) = some (octets a)) :
    decodeEscapes? (items.flatMap write) = some (items.flatMap octets) := by
  induction items with
  | nil => rfl
  | cons a rest ih =>
    rw [List.forall_mem_cons] at h
    rw [List.flatMap_cons, List.flatMap_cons, decodeEscapes?_append h.1, ih h.2]
    rfl

/-! ## Escaping writes what is read back -/

theorem decodeEscapes?_escapeChar (c : Char) :
    decodeEscapes? (escapeChar c) = some (String.utf8EncodeChar c) := by
  unfold escapeChar
  split
  · next h => subst h; rfl
  split
  · next h => subst h; rfl
  split
  · next h => subst h; rfl
  split
  · next h => subst h; rfl
  split
  · next h => subst h; rfl
  -- Every character that structures a filter is escaped by now.
  next hbackslash hasterisk hopen hclose hnul =>
    have hplain : ¬ (c = '\\' || isMeta c) = true := by
      simp [isMeta, hbackslash, hasterisk, hopen, hclose, hnul]
    rw [decodeEscapes?, if_neg hplain]
    · simp [decodeEscapes?]
    · rintro high low tail rfl
      exact absurd rfl hbackslash

theorem hexValue?_hexDigit : ∀ n < 16, hexValue? (hexDigit n) = some n := by
  decide

theorem decodeEscapes?_hexOctet (octet : UInt8) :
    decodeEscapes? ('\\' :: hexOctet octet) = some [octet] := by
  have hlt : octet.toNat < 256 := octet.toNat_lt
  have hhigh := hexValue?_hexDigit (octet.toNat / 16 % 16) (by omega)
  have hlow := hexValue?_hexDigit (octet.toNat % 16) (by omega)
  have hvalue : 16 * (octet.toNat / 16 % 16) + octet.toNat % 16 = octet.toNat := by omega
  simp only [hexOctet, hexDigits, List.nil_append, List.cons_append, decodeEscapes?, hhigh, hlow,
    hvalue, Option.map_some, UInt8.ofNat_toNat]

theorem decodeEscapes?_escapeText (s : String) :
    decodeEscapes? (escapeText s).toList = some (utf8 s) := by
  rw [escapeText, String.toList_ofList, utf8_eq_flatMap]
  exact decodeEscapes?_flatMap fun c _ => decodeEscapes?_escapeChar c

theorem decodeEscapes?_escapeOctets (octets : List UInt8) :
    decodeEscapes? (escapeOctets octets).toList = some octets := by
  rw [escapeOctets, String.toList_ofList,
    decodeEscapes?_flatMap fun octet _ => decodeEscapes?_hexOctet octet]
  simp

/-- A text or an octet string is written as a region that is read back as its octets. -/
theorem exists_escape {p : Value} {octets : List UInt8} (h : writtenOctets? p = some octets) :
    ∃ s, escape p = .ok s ∧ decodeEscapes? s.toList = some octets := by
  unfold writtenOctets? at h
  split at h
  · cases h
    exact ⟨_, rfl, decodeEscapes?_escapeText _⟩
  · cases h
    exact ⟨_, rfl, decodeEscapes?_escapeText _⟩
  · next octets' growable =>
    cases h
    -- Octets that are UTF-8 are written as their text, others one by one.
    cases htext : ofUtf8? octets with
    | none =>
      refine ⟨escapeOctets octets, ?_, decodeEscapes?_escapeOctets octets⟩
      simp [escape, htext]
    | some s =>
      refine ⟨escapeText s, ?_, ?_⟩
      · simp [escape, htext]
      · rw [decodeEscapes?_escapeText, utf8_of_ofUtf8? htext]
  · cases h

theorem exists_escapeAll {params : List Value} (h : ∀ p ∈ params, (writtenOctets? p).isSome) :
    ∃ escaped, escapeAll params = .ok escaped ∧
      escaped.map (fun s => decodeEscapes? s.toList) = params.map writtenOctets? := by
  induction params with
  | nil => exact ⟨[], rfl, rfl⟩
  | cons p rest ih =>
    rw [List.forall_mem_cons] at h
    obtain ⟨octets, hoctets⟩ := Option.isSome_iff_exists.1 h.1
    obtain ⟨s, hs, hdecoded⟩ := exists_escape hoctets
    obtain ⟨escaped, hescaped, hmap⟩ := ih h.2
    refine ⟨s :: escaped, ?_, ?_⟩
    · rw [escapeAll, hs]
      simp only
      rw [hescaped]
      rfl
    · rw [List.map_cons, List.map_cons, hdecoded, hmap, hoctets]

/-! ## Rendering -/

/-- An admitted template spells parts, whose parameters are the indexes that are answered. -/
theorem exists_spells {template : String} {indexes : List Nat}
    (h : placeholderIndexes (.text template) = .ok indexes) :
    ∃ parts, Spells template.toList parts ∧
      ∀ index, index ∈ indexes ↔ index ∈ references parts := by
  obtain ⟨parts, hread, rfl⟩ := exists_ok_of_map_ok h
  exact ⟨parts, readText_eq_ok_iff.1 hread, fun index => by simp [ascending]⟩

/-- What structures a filter are the characters of its parts. -/
theorem Embeds.outline_eq {parts : List Part} {params : List Value} {filter : String}
    (h : Embeds parts params filter) :
    outline filter = (parts.flatMap (Part.shown fun _ => [])).filter isMeta := by
  obtain ⟨region, hlayout, hregion⟩ := h
  rw [outline, hlayout, List.filter_flatMap, List.filter_flatMap]
  apply List.flatMap_congr
  intro part hpart
  cases part with
  | char c => rfl
  | param index =>
    -- A region has none of the characters that structure a filter, so nothing of it is left.
    obtain ⟨octets, -, hindex⟩ := hregion index (mem_references.2 hpart)
    exact List.filter_eq_nil_iff.2 fun c hc => by simp [hindex.plain c hc]

/-- A template that spells parts embeds the texts and octet strings that are given for them. -/
theorem exists_embeds {template : String} {parts : List Part} {params : List Value}
    (h : Spells template.toList parts) (hparams : ∀ p ∈ params, (writtenOctets? p).isSome)
    (hlong : ∀ index ∈ references parts, index < params.length) :
    ∃ filter, render (.text template) params = .ok filter ∧ Embeds parts params filter := by
  obtain ⟨escaped, hescaped, hdecoded⟩ := exists_escapeAll hparams
  refine ⟨fill parts escaped, render_of_spells h hescaped hlong, _, toList_fill parts escaped, ?_⟩
  intro index hindex
  have hlt := hlong index hindex
  obtain ⟨octets, hoctets⟩ := Option.isSome_iff_exists.1 (hparams _ (List.getElem_mem hlt))
  refine ⟨octets, ?_, region_of_decodeEscapes? ?_⟩
  · rw [List.getElem?_eq_getElem hlt]
    exact hoctets
  · -- All escaped texts are read back at once; this one stands at the parameter's index.
    have hat := congrArg (·[index]?) hdecoded
    simp only [List.getElem?_map, List.getElem?_eq_getElem hlt, Option.map_some, hoctets] at hat
    obtain ⟨s, hs, hat⟩ := Option.map_eq_some_iff.1 hat
    rw [List.getD_eq_getElem?_getD, hs]
    exact hat

/-- **Parameters cannot change the structure of a filter.** Rendering an admitted template with
texts and octet strings gives its own characters with a region for each parameter, and other
parameters leave the characters that structure the filter as they are. -/
theorem render_embeds {template : String} {indexes : List Nat}
    (haccepted : placeholderIndexes (.text template) = .ok indexes) :
    ∃ parts, Spells template.toList parts ∧
      (∀ index, index ∈ indexes ↔ index ∈ references parts) ∧
      ∀ params : List Value, (∀ p ∈ params, (writtenOctets? p).isSome) →
        (∀ index ∈ indexes, index < params.length) →
        ∃ filter, render (.text template) params = .ok filter ∧ Embeds parts params filter ∧
          ∀ others : List Value, others.length = params.length →
            (∀ p ∈ others, (writtenOctets? p).isSome) →
            ∃ other, render (.text template) others = .ok other ∧
              outline other = outline filter := by
  obtain ⟨parts, hspells, hindexes⟩ := exists_spells haccepted
  refine ⟨parts, hspells, hindexes, ?_⟩
  intro params hparams hlong
  have hreferences : ∀ index ∈ references parts, index < params.length :=
    fun index hindex => hlong index ((hindexes index).2 hindex)
  obtain ⟨filter, hrender, hembeds⟩ := exists_embeds hspells hparams hreferences
  refine ⟨filter, hrender, hembeds, ?_⟩
  intro others hlength hothers
  obtain ⟨other, hother, hembedsOther⟩ :=
    exists_embeds hspells hothers (by rwa [hlength])
  exact ⟨other, hother, hembedsOther.outline_eq.trans hembeds.outline_eq.symm⟩

/-- A name that tries to close the filter, after octets that are no text. -/
theorem render_embeds_hostile :
    placeholderIndexes (.text "(&(uid=\x7b1\x7d)(member=\x7b0\x7d))") = .ok [0, 1] ∧
      ∃ parts filter,
        render (.text "(&(uid=\x7b1\x7d)(member=\x7b0\x7d))")
            [.octets [0xFF, 0x28] false, .text "*)(\x7b0\x7d\\"] = .ok filter ∧
          Embeds parts [.octets [0xFF, 0x28] false, .text "*)(\x7b0\x7d\\"] filter := by
  have haccepted :
      placeholderIndexes (.text "(&(uid=\x7b1\x7d)(member=\x7b0\x7d))") = .ok [0, 1] := by cbv
  obtain ⟨parts, -, -, hrenders⟩ := render_embeds haccepted
  obtain ⟨filter, hrender, hembeds, -⟩ :=
    hrenders [.octets [0xFF, 0x28] false, .text "*)(\x7b0\x7d\\"]
      (by simp [writtenOctets?]) (by simp)
  exact ⟨haccepted, parts, filter, hrender, hembeds⟩

end GrantedRoles.SearchFilter
