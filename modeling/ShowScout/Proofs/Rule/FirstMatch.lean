import Mathlib.Order.Bounds.Basic
import ShowScout.Proofs.Rule.Authored

/-!
# The first rule for an address

Which rule a list of rules gives for an address, said of what the rules ask for and not of the
search: the first one that qualifies. Rules that do not qualify neither match nor end the search.
-/

namespace ShowScout

/-! ## Texts within texts -/

theorem Text.holdsChars_iff {part s : List Char} : Text.holdsChars part s ↔ part <:+: s := by
  induction s with
  | nil => simp [holdsChars]
  | cons c s ih => simp [holdsChars, ih, List.infix_cons_iff]

theorem Text.holds_iff {s part : String} : Text.holds s part ↔ part.toList <:+: s.toList :=
  holdsChars_iff

/-! ## Rules that qualify -/

/-- The pattern has a reading as a program, and the program finds a match in the text. -/
def Pattern.Finds (pattern : Pattern) (text : String) : Prop :=
  ∃ program slots, pattern.program? = some program ∧ program.search text.toList = some slots

theorem Pattern.isMatch_iff {pattern : Pattern} {text : String} :
    pattern.isMatch text ↔ pattern.Finds text := by
  unfold isMatch match? Finds
  cases pattern.program? with
  | none => simp
  | some program => simp [Option.isSome_iff_exists]

/-- What a rule asks of an address. -/
structure Rule.Qualifies (rule : Rule) (url : String) : Prop where
  enabled : rule.enabled
  host_ne : rule.host ≠ ""
  host_infix : rule.host.toList <:+: url.toList
  pattern : ∀ pattern ∈ rule.urlPattern, pattern.Finds url

theorem Rule.appliesTo_iff {rule : Rule} {url : String} :
    rule.appliesTo url ↔ rule.Qualifies url := by
  have hpattern : (rule.urlPattern.map (·.isMatch url)).getD true ↔
      ∀ pattern ∈ rule.urlPattern, pattern.Finds url := by
    cases rule.urlPattern <;> simp [Pattern.isMatch_iff]
  have hhost : (!rule.host.isEmpty) = true ↔ rule.host ≠ "" := by
    simp
  unfold appliesTo
  rw [Bool.and_eq_true, Bool.and_eq_true, Bool.and_eq_true, hhost, Text.holds_iff, hpattern]
  constructor
  · rintro ⟨⟨⟨henabled, hne⟩, hinfix⟩, hpattern⟩
    exact ⟨henabled, hne, hinfix, hpattern⟩
  · rintro ⟨henabled, hne, hinfix, hpattern⟩
    exact ⟨⟨⟨henabled, hne⟩, hinfix⟩, hpattern⟩

instance (rule : Rule) (url : String) : Decidable (rule.Qualifies url) :=
  decidable_of_iff _ Rule.appliesTo_iff

/-! ## Searches -/

section Search

variable {rules : List Rule} {url : String} {index : Nat}

/-- The places of the rules that qualify. -/
def qualifyingPlaces (rules : List Rule) (url : String) : Set Nat :=
  { index | ∃ rule, rules[index]? = some rule ∧ rule.Qualifies url }

theorem matchIndex_eq_some_iff :
    matchIndex rules url = some index ↔ IsLeast (qualifyingPlaces rules url) index := by
  have hplace (i : Nat) (hi : i < rules.length) :
      i ∈ qualifyingPlaces rules url ↔ rules[i].appliesTo url := by
    simp [qualifyingPlaces, List.getElem?_eq_getElem hi, Rule.appliesTo_iff]
  rw [matchIndex, List.findIdx?_eq_some_iff_getElem]
  constructor
  · rintro ⟨hindex, happlies, hbefore⟩
    refine ⟨(hplace index hindex).2 happlies, ?_⟩
    intro i hi
    by_contra hlt
    have hlt : i < index := Nat.lt_of_not_le hlt
    exact hbefore i hlt ((hplace i (hlt.trans hindex)).1 hi)
  · rintro ⟨hmem, hleast⟩
    have hindex : index < rules.length := by
      obtain ⟨rule, hrule, -⟩ := hmem
      exact (List.getElem?_eq_some_iff.1 hrule).1
    refine ⟨hindex, (hplace index hindex).1 hmem, ?_⟩
    intro i hlt happlies
    exact Nat.not_le_of_lt hlt (hleast ((hplace i (hlt.trans hindex)).2 happlies))

theorem matchRule_eq_getElem? (rules : List Rule) (url : String) :
    matchRule rules url = (matchIndex rules url).bind (rules[·]?) := by
  rw [matchRule, matchIndex, List.find?_eq_bind_findIdx?_getElem?]

theorem matchRule_eq_none_iff :
    matchRule rules url = none ↔ ∀ rule ∈ rules, ¬ rule.Qualifies url := by
  simp [matchRule, ← Rule.appliesTo_iff]

theorem isActionable_iff : isActionable rules url ↔ ∃ rule ∈ rules, rule.Qualifies url := by
  simp [isActionable, matchRule, ← Rule.appliesTo_iff]

theorem matchRule_append (rules others : List Rule) (url : String) :
    matchRule (rules ++ others) url = (matchRule rules url).or (matchRule others url) :=
  List.find?_append

theorem matchIndex_append (rules others : List Rule) (url : String) :
    matchIndex (rules ++ others) url =
      (matchIndex rules url).or ((matchIndex others url).map (· + rules.length)) :=
  List.findIdx?_append

/-- Rules that do not qualify may stand anywhere. -/
theorem matchRule_insert {first idle rest : List Rule} (h : ∀ rule ∈ idle, ¬ rule.Qualifies url) :
    matchRule (first ++ idle ++ rest) url = matchRule (first ++ rest) url := by
  have hidle : matchRule idle url = none := matchRule_eq_none_iff.2 h
  rw [matchRule_append, matchRule_append, matchRule_append, hidle, Option.or_none]

end Search

/-- A search gives the rule at the least place at which one qualifies, and none if there is no such
place. The search through two lists goes on in the second where the first has no rule; rules that do
not qualify make no difference, wherever they are put or left out; and an address is actionable if a
rule qualifies. The patterns of authored rules ignore case. -/
theorem matchRule_isFirst (rules : List Rule) (url : String) :
    (∀ index, matchIndex rules url = some index ↔ IsLeast (qualifyingPlaces rules url) index) ∧
    matchRule rules url = (matchIndex rules url).bind (rules[·]?) ∧
    (matchRule rules url = none ↔ ∀ rule ∈ rules, ¬ rule.Qualifies url) ∧
    (∀ others, matchRule (rules ++ others) url = (matchRule rules url).or (matchRule others url)) ∧
    (∀ first idle rest, rules = first ++ rest → (∀ rule ∈ idle, ¬ rule.Qualifies url) →
      matchRule (first ++ idle ++ rest) url = matchRule rules url) ∧
    (isActionable rules url ↔ ∃ rule ∈ rules, rule.Qualifies url) ∧
    (∀ rule : Rule, rule.Authored → ∀ pattern ∈ rule.urlPattern, pattern.ignoreCase) := by
  refine ⟨fun _ => matchIndex_eq_some_iff, matchRule_eq_getElem? rules url, matchRule_eq_none_iff,
    fun others => matchRule_append rules others url, ?_, isActionable_iff,
    fun _ hauthored _ hpattern => hauthored.ignoreCase (.inl hpattern)⟩
  intro first idle rest hrules hidle
  rw [hrules]
  exact matchRule_insert hidle

end ShowScout
