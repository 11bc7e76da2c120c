import ShowScout.Proofs.Rule.FirstMatch

/-!
# Broken patterns in rules

A pattern without a reading finds nothing, so a rule whose pattern for addresses is broken might as
well not be in the list. It is stored as it was written, and is read back unless it is blank.
-/

namespace ShowScout

variable {pattern : Pattern} {rule reloaded : Rule}

/-! ## Patterns -/

/-- A pattern has a reading if its source can be read and its automaton is not too large. -/
theorem Pattern.isValid_iff :
    pattern.isValid ↔ ∃ parsed,
      Regex.Pattern.parse pattern.ignoreCase pattern.source.toList = some parsed ∧
        parsed.expr.fits := by
  unfold isValid program?
  cases Regex.Pattern.parse pattern.ignoreCase pattern.source.toList with
  | none => simp
  | some parsed => cases h : parsed.expr.fits <;> simp [h, guard]

theorem Pattern.program?_of_broken (h : pattern.isValid = false) : pattern.program? = none :=
  Option.isSome_eq_false_iff.1 h |> Option.isNone_iff_eq_none.1

theorem Pattern.isMatch_of_broken (h : pattern.isValid = false) (text : String) :
    pattern.isMatch text = false := by
  simp [isMatch, match?, program?_of_broken h]

theorem Pattern.firstCapture_of_broken (h : pattern.isValid = false) (text : String) :
    pattern.firstCapture text = none := by
  simp [firstCapture, match?, program?_of_broken h]

/-! ## Searches -/

theorem Rule.not_qualifies_of_broken (hpattern : pattern ∈ rule.urlPattern)
    (h : pattern.isValid = false) (url : String) : ¬ rule.Qualifies url := by
  intro hqualifies
  have hfinds := Pattern.isMatch_iff.2 (hqualifies.pattern pattern hpattern)
  rw [Pattern.isMatch_of_broken h] at hfinds
  cases hfinds

/-- A search gives no rule that does not qualify. -/
theorem matchRule_ne_of_not_qualifies {url : String} (h : ¬ rule.Qualifies url)
    (rules : List Rule) : matchRule rules url ≠ some rule := by
  intro hmatch
  unfold matchRule at hmatch
  have happlies := List.find?_some hmatch
  exact h (Rule.appliesTo_iff.1 happlies)

/-- A search gives the same without a rule that does not qualify. -/
theorem matchRule_filter_of_not_qualifies {url : String} (h : ¬ rule.Qualifies url)
    (rules : List Rule) : matchRule (rules.filter (· ≠ rule)) url = matchRule rules url := by
  rw [matchRule, matchRule, List.find?_filter]
  congr 1
  funext other
  by_cases hother : other = rule
  · subst hother
    simpa [← Rule.appliesTo_iff] using h
  · simp [hother]

/-! ## Storing and reading back -/

/-- What becomes of a broken pattern in a place where all patterns have one letter case: it keeps
its source, and is as broken as before if it had that letter case. -/
structure Pattern.KeptBroken (pattern : Pattern) (ignoreCase : Bool) (kept : Pattern) : Prop where
  source : kept.source = pattern.source
  not_isValid : pattern.ignoreCase = ignoreCase → kept.isValid = false

theorem Pattern.keptBroken (h : pattern.isValid = false) (ignoreCase : Bool) :
    pattern.KeptBroken ignoreCase { pattern with ignoreCase } where
  source := rfl
  not_isValid := by
    rintro rfl
    exact h

theorem StoredSite.caselessPattern_of_blank {source : String} (h : Text.isAllBlank source) :
    caselessPattern (some source) = none := by
  simp [caselessPattern, Text.nonBlank?, Option.filter, h]

theorem StoredSite.caselessPattern_of_not_blank {source : String}
    (h : Text.isAllBlank source = false) :
    caselessPattern (some source) = some { source, ignoreCase := true } := by
  simp [caselessPattern, Text.nonBlank?, Option.filter, h]

section Reload

variable (hreload : (StoredSite.ofRule rule).toRule = .ok reloaded)

include hreload

theorem patterns_of_reload :
    reloaded.urlPattern = StoredSite.caselessPattern (rule.urlPattern.map (·.source)) ∧
      reloaded.contentPattern =
        StoredSite.caselessPattern (rule.contentPattern.map (·.source)) := by
  obtain ⟨-, -, -, extraction, -, rfl⟩ := StoredSite.toRule_eq_ok_iff.1 hreload
  exact ⟨rfl, rfl⟩

/-- A record with a blank pattern for the title is not accepted, so this pattern is never lost. -/
theorem extraction_of_reload (hextraction : rule.extraction = .regex pattern) :
    reloaded.extraction = .regex { pattern with ignoreCase := false } := by
  obtain ⟨-, -, -, extraction, hof, rfl⟩ := StoredSite.toRule_eq_ok_iff.1 hreload
  simp only [StoredSite.extraction, StoredSite.ofRule, hextraction, Text.nonBlank?,
    Option.filter] at hof
  cases hblank : Text.isAllBlank pattern.source with
  | true => simp [hblank] at hof
  | false => simpa [hblank, eq_comm] using hof

end Reload

end ShowScout
