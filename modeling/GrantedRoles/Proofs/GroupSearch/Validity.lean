import GrantedRoles.Proofs.GroupSearch.Parts

/-!
# Valid configurations

There are three ways to make a configuration (`Construction`) and six to change one (`Modifier`).
Each looks at other parts, and at these before the whole is validated; yet all of them refuse
exactly what the rules of the whole refuse, and what they need by themselves: a base to search
under, a flag that is a Boolean, a value at all (`constructions_lawful`). So whatever is made and
changed, what is in hand is sound. A refusal quotes a value of a wrong type, and a number that is
too long to be written makes it fail in another way (`constructions_quote_unwritable`).
-/

set_option autoImplicit false

namespace GrantedRoles

/-- A way to make a configuration. -/
inductive Construction where
  | ofArguments (arguments : Assoc Value)
  | forSearchBase (base : Value) (arguments : Assoc Value)
  | fromSubtreeFlag (arguments : Assoc Value)

/-- The scope that a flag stands for; what is not a flag stands for none. -/
def flaggedScope : Value → Value
  | .bool whole => .scope (.ofSubtree whole)
  | _ => .null

/-- A Boolean is a flag and nothing else is, not even a number that is worth as much. -/
theorem Scope.ofFlag_cases (flag : Value) :
    (∃ whole, flag = .bool whole ∧ ofFlag flag = .ok (.ofSubtree whole)) ∨
      (∀ b, flag ≠ .bool b) ∧
        ∃ fault, ofFlag flag = .error (.quoting flag.quotation (.configuration fault)) := by
  cases flag with
  | bool whole => exact Or.inl ⟨whole, rfl, rfl⟩
  | _ => exact Or.inr ⟨by simp, _, rfl⟩

namespace Construction

/-- Makes the configuration. -/
def run : Construction → Except Failure GroupSearch
  | ofArguments arguments => GroupSearch.ofArguments arguments
  | forSearchBase base arguments => GroupSearch.forSearchBase base arguments
  | fromSubtreeFlag arguments => GroupSearch.fromSubtreeFlag arguments

/-- The keywords of all parts but one. -/
def otherKeywords (supplied : GroupSearchField) : List String :=
  (GroupSearchField.all.filter (· != supplied)).map GroupSearchField.keyword

/-- The arguments name each keyword once, and only known ones that the construction does not supply
itself. -/
def WellNamed : Construction → Prop
  | ofArguments arguments =>
      arguments.Names (GroupSearchField.all.map GroupSearchField.keyword)
  | forSearchBase _ arguments => arguments.Names (otherKeywords .base)
  | fromSubtreeFlag arguments =>
      arguments.Names (GroupSearch.subtreeKeyword :: otherKeywords .scope)

/-- The flag that stands for the scope. -/
def subtreeFlag (arguments : Assoc Value) : Value :=
  (arguments.get? GroupSearch.subtreeKeyword).getD (.bool false)

/-- The defaults. -/
def defaults : GroupSearchParts := ({} : GroupSearchDraft).get

/-- The arguments merged with the defaults and with what the construction supplies. -/
def parts : Construction → GroupSearchParts
  | ofArguments arguments => arguments.partsOr defaults
  | forSearchBase base arguments => GroupSearchParts.set (arguments.partsOr defaults) .base base
  | fromSubtreeFlag arguments =>
      GroupSearchParts.set (arguments.partsOr defaults) .scope
        (flaggedScope (subtreeFlag arguments))

/-- What is refused: parts against the rules, no base where one is asked for, a flag that is not a
Boolean. -/
def Refused (construction : Construction) : Prop :=
  ¬ Lawful construction.parts ∨
    match construction with
    | ofArguments _ => False
    | forSearchBase base _ => base = .null
    | fromSubtreeFlag arguments => ∀ b, subtreeFlag arguments ≠ .bool b

/-- What a refusal quotes: of the parts what is against the rules, or what should be a flag. -/
def quoted : Construction → List Value
  | ofArguments arguments => (arguments.partsOr defaults).quoted
  | forSearchBase base arguments =>
      if base.isPresent then
        (GroupSearchParts.set (arguments.partsOr defaults) .base base).quoted
      else []
  | fromSubtreeFlag arguments =>
      match subtreeFlag arguments with
      | .bool whole =>
          (GroupSearchParts.set (arguments.partsOr defaults) .scope
            (.scope (.ofSubtree whole))).quoted
      | flag => flag.quotation

/-! ## The decision of each construction -/

theorem otherKeywords_subset (supplied : GroupSearchField) :
    ∀ k ∈ otherKeywords supplied, k ∈ GroupSearchField.all.map GroupSearchField.keyword := by
  intro k hk
  obtain ⟨field, hfield, rfl⟩ := List.mem_map.1 hk
  exact List.mem_map.2 ⟨field, (List.mem_filter.1 hfield).1, rfl⟩

theorem keyword_not_mem_otherKeywords (supplied : GroupSearchField) :
    supplied.keyword ∉ otherKeywords supplied := by
  intro hmem
  obtain ⟨field, hfield, hkeyword⟩ := List.mem_map.1 hmem
  have hne := (List.mem_filter.1 hfield).2
  rw [GroupSearchField.keyword_injective hkeyword, bne_self_eq_false] at hne
  cases hne

/-- Supplied by the construction itself, a part joins the arguments of the others. -/
theorem names_supplied {arguments : Assoc Value} {supplied : GroupSearchField}
    (h : arguments.Names (otherKeywords supplied)) (value : Value) :
    (arguments.put supplied.keyword value).Names
      (GroupSearchField.all.map GroupSearchField.keyword) := by
  refine (h.put value (keyword_not_mem_otherKeywords supplied)).mono ?_
  intro k hk
  rcases List.mem_cons.1 hk with rfl | hk
  · cases supplied <;> decide
  · exact otherKeywords_subset supplied k hk

/-- What is supplied beside the arguments decides with them. -/
theorem supplied_decided {arguments : Assoc Value} {supplied : GroupSearchField}
    (h : arguments.Names (otherKeywords supplied)) (value : Value) :
    Decided (¬ Lawful (GroupSearchParts.set (arguments.partsOr defaults) supplied value))
      (GroupSearchParts.set (arguments.partsOr defaults) supplied value).quoted
      (GroupSearchParts.set (arguments.partsOr defaults) supplied value)
      (GroupSearch.ofArguments (arguments.put supplied.keyword value)) := by
  have hdecided := GroupSearch.ofArguments_decided (names_supplied h value)
  rwa [Assoc.partsOr_put] at hdecided

theorem forSearchBase_decided {base : Value} {arguments : Assoc Value}
    (h : arguments.Names (otherKeywords .base)) :
    Decided (forSearchBase base arguments).Refused (forSearchBase base arguments).quoted
      (forSearchBase base arguments).parts
      (GroupSearch.forSearchBase base arguments) := by
  have hbase : arguments.get? GroupSearchField.base.keyword = none :=
    h.get?_eq_none (keyword_not_mem_otherKeywords .base)
  have himplicit : arguments.get? GroupSearch.implicitKeyword = none :=
    h.get?_eq_none (by decide)
  have hrequired := (supplied_decided h base).require base .searchBase
  unfold GroupSearch.forSearchBase
  rw [hbase, himplicit, if_neg (by decide)]
  refine Decided.of_iff ?_ or_comm
  -- The base is required before the arguments are read, and the decision about them follows.
  cases hpresent : require base .searchBase with
  | error failure => rwa [hpresent] at hrequired
  | ok _ => rwa [hpresent] at hrequired

theorem fromSubtreeFlag_decided {arguments : Assoc Value}
    (h : arguments.Names (GroupSearch.subtreeKeyword :: otherKeywords .scope)) :
    Decided (fromSubtreeFlag arguments).Refused (fromSubtreeFlag arguments).quoted
      (fromSubtreeFlag arguments).parts
      (GroupSearch.fromSubtreeFlag arguments) := by
  have himplicit : arguments.get? GroupSearch.implicitKeyword = none :=
    h.get?_eq_none (by decide)
  have hscope : (arguments.erase GroupSearch.subtreeKeyword).get? GroupSearchField.scope.keyword
      = none :=
    h.erase.get?_eq_none (keyword_not_mem_otherKeywords .scope)
  -- The flag is no argument of a part: dropping it leaves what the others give.
  have hsame : (arguments.erase GroupSearch.subtreeKeyword).partsOr defaults
      = arguments.partsOr defaults :=
    Assoc.partsOr_erase (by intro field; cases field <;> decide) defaults
  unfold GroupSearch.fromSubtreeFlag
  rw [himplicit, if_neg (by decide)]
  rcases Scope.ofFlag_cases (subtreeFlag arguments) with
    ⟨whole, hflag, hwhole⟩ | ⟨hflag, fault, hfault⟩
  · have hdecided := supplied_decided h.erase (.scope (.ofSubtree whole))
    rw [hsame] at hdecided
    unfold subtreeFlag at hwhole
    simp only [hwhole, hscope]
    rw [Refused, quoted, parts, hflag]
    exact hdecided.of_iff (or_iff_left fun hnone => hnone whole rfl)
  · have hquoted : (fromSubtreeFlag arguments).quoted = (subtreeFlag arguments).quotation := by
      simp only [quoted]
    rw [hquoted]
    unfold subtreeFlag at hfault
    simp only [hfault]
    exact .refusing (Or.inr hflag) fault

/-- Every construction with known arguments refuses what it should, and makes the merged parts. -/
theorem run_decided {construction : Construction} (h : construction.WellNamed) :
    Decided construction.Refused construction.quoted construction.parts construction.run := by
  cases construction with
  | ofArguments arguments =>
    exact (GroupSearch.ofArguments_decided h).of_iff (or_iff_left id)
  | forSearchBase base arguments => exact forSearchBase_decided h
  | fromSubtreeFlag arguments => exact fromSubtreeFlag_decided h

end Construction

/-! ## Changes -/

namespace Modifier

/-- The part that is changed. -/
def field : Modifier → GroupSearchField
  | rolePrefix _ => .rolePrefix
  | filter _ => .filter
  | roleAttribute _ => .roleAttribute
  | subtree _ => .scope
  | upperCase _ => .upperCase
  | defaultRole _ => .defaultRole

/-- The value that is given. -/
def value : Modifier → Value
  | rolePrefix value => value
  | filter value => value
  | roleAttribute value => value
  | subtree flag => flag
  | upperCase flag => flag
  | defaultRole value => value

/-- The value that is given is a flag. -/
def takesFlag : Modifier → Prop
  | subtree _ => True
  | upperCase _ => True
  | _ => False

/-- What the part becomes. -/
def stored (modifier : Modifier) : Value :=
  match modifier with
  | subtree flag => flaggedScope flag
  | other => other.value

/-- What is refused: no value, and for a flag what is not a Boolean. -/
def Refused (modifier : Modifier) : Prop :=
  modifier.value = .null ∨ modifier.takesFlag ∧ ∀ b, modifier.value ≠ .bool b

/-- But for a flag that stands for a scope, what is refused is no value and what the part does not
admit. -/
theorem refused_iff {modifier : Modifier} (h : modifier.field ≠ .scope) :
    modifier.Refused ↔ modifier.value = .null ∨ ¬ modifier.field.Admits modifier.value := by
  cases modifier with
  | subtree flag => exact absurd rfl h
  | _ => simp [Refused, value, takesFlag, field, GroupSearchField.Admits]

end Modifier

namespace GroupSearch

theorem store_flag_decided (config : GroupSearch) (flag : Value) :
    Decided (Modifier.subtree flag).Refused flag.quotation
      (GroupSearchParts.set config.get .scope (flaggedScope flag))
      (config.modify (.subtree flag)) := by
  rcases Scope.ofFlag_cases flag with ⟨whole, rfl, hwhole⟩ | ⟨hflag, fault, hfault⟩
  · refine ((config.store_decided .scope (.scope (.ofSubtree whole))).requote
      fun hscope => absurd ⟨_, rfl⟩ hscope).of_iff ?_
    constructor
    · rintro (hnull | ⟨-, hnone⟩)
      · cases hnull
      · exact absurd rfl (hnone whole)
    · intro hscope
      exact absurd ⟨_, rfl⟩ hscope
  · rw [modify, hfault]
    exact .refusing (Or.inr ⟨trivial, hflag⟩) fault

/-- Every change refuses what it should, quoting the value that is given if there is one, and
changes its part and no other. -/
theorem modify_decided (config : GroupSearch) (modifier : Modifier) :
    Decided modifier.Refused modifier.value.quotation
      (GroupSearchParts.set config.get modifier.field modifier.stored) (config.modify modifier) := by
  -- All modifiers but one require their value and store it; that one reads a flag first.
  have hrequired (part : Required) (h : modifier.field ≠ .scope) :
      Decided modifier.Refused modifier.value.quotation
        (GroupSearchParts.set config.get modifier.field modifier.value)
        (require modifier.value part >>= fun _ =>
          (config.draft.set modifier.field modifier.value).validate) := by
    have hstored := (config.store_decided modifier.field modifier.value).require modifier.value part
    refine (hstored.of_iff (Modifier.refused_iff h)).requote fun _ => ?_
    unfold Value.quotation
    split <;> rfl
  cases modifier with
  | rolePrefix value => exact hrequired _ (by simp [Modifier.field])
  | filter value => exact hrequired _ (by simp [Modifier.field])
  | roleAttribute value => exact hrequired _ (by simp [Modifier.field])
  | subtree flag => exact config.store_flag_decided flag
  | upperCase flag => exact hrequired _ (by simp [Modifier.field])
  | defaultRole value => exact hrequired _ (by simp [Modifier.field])

/-- The configuration that is in hand after an attempt to change it. -/
def modifyOrKeep (config : GroupSearch) (modifier : Modifier) : GroupSearch :=
  match config.modify modifier with
  | .ok changed => changed
  | .error _ => config

/-- The configuration that is in hand after several attempts. -/
def modifyAll (config : GroupSearch) (modifiers : List Modifier) : GroupSearch :=
  modifiers.foldl modifyOrKeep config

/-! ## Soundness -/

/-- What holds of a configuration in hand, whatever it was made of. -/
structure Sound (config : GroupSearch) : Prop where
  filter : config.get .filter ≠ .null
  roleAttribute : config.get .roleAttribute ≠ .null
  rolePrefix : config.get .rolePrefix ≠ .null
  scope : ∃ s, config.get .scope = .scope s
  upperCase : ∃ b, config.get .upperCase = .bool b
  searchesSubtree : config.searchesSubtree = true ↔ config.get .scope = .scope .subtree
  searchEnabled : config.searchEnabled = true ↔ config.get .base ≠ .null

theorem sound (config : GroupSearch) : config.Sound where
  filter := config.lawful .filter
  roleAttribute := config.lawful .roleAttribute
  rolePrefix := config.lawful .rolePrefix
  scope := config.lawful .scope
  upperCase := config.lawful .upperCase
  searchesSubtree := by
    constructor
    · intro hsubtree
      exact congrArg Value.scope (eq_of_beq hsubtree)
    · intro hscope
      exact beq_of_eq (Value.scope.inj hscope)
  searchEnabled := Value.isPresent_iff

end GroupSearch

/-- **Configurations are valid.** However a configuration is made, and whatever changes of it are
attempted, the one in hand is sound. Known arguments are refused exactly if they are against the
rules or the construction lacks its base or its flag, and a change exactly if it has no value or its
flag is not a Boolean; each time as a mistake of configuration, unless the refusal quotes a value
that has no text. What is not refused is made of the merged arguments, or changed in the one part.
-/
theorem constructions_lawful (construction : Construction) :
    (construction.WellNamed →
      ((∃ failure, construction.run = .error failure) ↔ construction.Refused) ∧
      (∀ failure, construction.run = .error failure →
        IsRefusal construction.quoted failure) ∧
      (∀ config, construction.run = .ok config → config.get = construction.parts)) ∧
    (∀ config, construction.run = .ok config → ∀ modifiers,
      (config.modifyAll modifiers).Sound ∧
      ∀ modifier : Modifier,
        ((∃ failure, (config.modifyAll modifiers).modify modifier = .error failure) ↔
          modifier.Refused) ∧
        (∀ failure, (config.modifyAll modifiers).modify modifier = .error failure →
          IsRefusal modifier.value.quotation failure) ∧
        (∀ changed, (config.modifyAll modifiers).modify modifier = .ok changed →
          changed.get = GroupSearchParts.set (config.modifyAll modifiers).get modifier.field
            modifier.stored)) := by
  constructor
  · intro hnamed
    have hrun := Construction.run_decided hnamed
    exact ⟨hrun.fails_iff, fun _ => hrun.isRefusal, fun _ => hrun.get_eq⟩
  · intro config _ modifiers
    refine ⟨GroupSearch.sound _, ?_⟩
    intro modifier
    have hmodify := (config.modifyAll modifiers).modify_decided modifier
    exact ⟨hmodify.fails_iff, fun _ => hmodify.isRefusal, fun _ => hmodify.get_eq⟩

/-- A flag gives the scope of the subtree, with the empty prefix; a number is no flag for upper case
and is refused, and then the scope can still be changed back. -/
theorem constructions_lawful_subtree :
    ∃ config,
      (Construction.fromSubtreeFlag
        [("search_subtree", .bool true), ("role_prefix", .text "")]).run = .ok config ∧
      config.get .scope = .scope .subtree ∧ config.get .rolePrefix = .text "" ∧
      (∃ failure, config.modify (.upperCase (.int 1)) = .error failure) ∧
      (config.modifyAll [.upperCase (.int 1), .subtree (.bool false)]).Sound ∧
      (config.modifyAll [.upperCase (.int 1), .subtree (.bool false)]).get .scope
        = .scope .oneLevel := by
  obtain ⟨hmade, hchanges⟩ := constructions_lawful (.fromSubtreeFlag
    [("search_subtree", .bool true), ("role_prefix", .text "")])
  obtain ⟨-, -, hparts⟩ := hmade ⟨by decide, by decide⟩
  refine ⟨_, rfl, ?_⟩
  have hconfig := hparts _ rfl
  refine ⟨congrFun hconfig .scope, congrFun hconfig .rolePrefix, ?_, ?_, rfl⟩
  · have hnumber := (hchanges _ rfl []).2 (.upperCase (.int 1))
    exact hnumber.1.2 (Or.inr ⟨trivial, by simp [Modifier.value]⟩)
  · exact (hchanges _ rfl _).1

/-- A number that is too long to be written is refused as a scope, as a flag for upper case and as
one for the subtree, and never as a mistake of configuration. -/
theorem constructions_quote_unwritable :
    let huge : Value := .int (Int.ofNat (Nat.pow 10 Text.maxDigits))
    ∀ construction ∈ [Construction.ofArguments [("search_scope", huge)],
        .ofArguments [("convert_to_upper_case", huge)], .fromSubtreeFlag [("search_subtree", huge)]],
      construction.WellNamed ∧ construction.Refused ∧ construction.run = .error .unwritable := by
  intro huge construction hconstruction
  have hunwritable : huge.isWritable = false := by
    rw [Value.isWritable, Int.natAbs_ofNat', decide_eq_false (Nat.lt_irrefl _)]
  have hquoting (fault : ConfigurationFault) :
      Failure.quoting [huge] (.configuration fault) = .unwritable := by
    simp [Failure.quoting, hunwritable]
  simp only [List.mem_cons, List.not_mem_nil, or_false] at hconstruction
  rcases hconstruction with rfl | rfl | rfl
  · refine ⟨⟨by decide, by decide⟩, Or.inl fun hlawful => ?_, ?_⟩
    · obtain ⟨s, hs⟩ := hlawful .scope
      cases hs
    · exact congrArg Except.error (hquoting _)
  · refine ⟨⟨by decide, by decide⟩, Or.inl fun hlawful => ?_, ?_⟩
    · obtain ⟨b, hb⟩ := hlawful .upperCase
      cases hb
    · exact congrArg Except.error (hquoting _)
  · refine ⟨⟨by decide, by decide⟩, Or.inr fun b hb => ?_, ?_⟩
    · cases hb
    · exact congrArg Except.error (hquoting _)

end GrantedRoles
