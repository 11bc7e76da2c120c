import ShowScout.Rule.Match

/-!
# Rules as they come about

A rule is written by its author, changed by edits and read from a record of a site. However it came
about, its patterns for addresses and for the content ignore case.
-/

namespace ShowScout

/-! ## Records that describe a rule -/

/-- What a record has to hold to describe a rule, and the rule that it then describes. -/
theorem StoredSite.toRule_eq_ok_iff {site : StoredSite} {rule : Rule} :
    site.toRule = .ok rule ↔
      Text.trim site.name ≠ "" ∧ Text.trim site.host ≠ "" ∧ Text.trim site.injectionXpath ≠ "" ∧
        ∃ extraction, site.extraction (Text.trim site.name) = .ok extraction ∧
          rule =
            { name := Text.trim site.name
              host := Text.trim site.host
              urlPattern := caselessPattern site.urlRegex
              contentPattern := caselessPattern site.contentRegex
              extraction
              injectionXpath := Text.trim site.injectionXpath
              enabled := site.isEnabled } := by
  unfold toRule
  simp only [Bool.or_eq_true, String.isEmpty_iff]
  split
  · rename_i hidentity
    simp only [reduceCtorEq, false_iff]
    rintro ⟨hname, hhost, -⟩
    exact hidentity.elim hname hhost
  · rename_i hidentity
    rw [not_or] at hidentity
    split
    · rename_i hxpath
      simp [hxpath]
    · rename_i hxpath
      cases site.extraction (Text.trim site.name) with
      | error error => simp [bind, Except.bind]
      | ok extraction =>
        simp [bind, Except.bind, pure, Except.pure, hidentity.1, hidentity.2, hxpath, eq_comm]

theorem StoredSite.ignoreCase_of_mem_caselessPattern {field : Option String} {pattern : Pattern}
    (h : pattern ∈ caselessPattern field) : pattern.ignoreCase := by
  obtain ⟨source, -, rfl⟩ := Option.map_eq_some_iff.1 h
  rfl

/-! ## Authored rules -/

/-- The ways in which a rule comes about. -/
inductive Rule.Authored : Rule → Prop
  | new (name host : String) (extraction : Extraction) (injectionXpath : String) :
      Authored { name, host, extraction, injectionXpath }
  | withUrlRegex {rule : Rule} (source : String) :
      Authored rule → Authored (rule.withUrlRegex source)
  | withContentRegex {rule : Rule} (source : String) :
      Authored rule → Authored (rule.withContentRegex source)
  | disable {rule : Rule} : Authored rule → Authored rule.disable
  | applyEdit {rule edited : Rule} :
      Authored rule → Authored edited → Authored (rule.applyEdit edited)
  | ofStored {site : StoredSite} {rule : Rule} : site.toRule = .ok rule → Authored rule

namespace Rule.Authored

variable {rule : Rule}

/-- A pattern for addresses or for the content ignores case, whoever wrote it. -/
theorem ignoreCase (h : rule.Authored) {pattern : Pattern}
    (hpattern : pattern ∈ rule.urlPattern ∨ pattern ∈ rule.contentPattern) :
    pattern.ignoreCase := by
  induction h with
  | new name host extraction injectionXpath => exact hpattern.elim nofun nofun
  | withUrlRegex source _ ih =>
    obtain ⟨⟨⟩⟩ | hcontent := hpattern
    · rfl
    · exact ih (.inr hcontent)
  | withContentRegex source _ ih =>
    obtain hurl | ⟨⟨⟩⟩ := hpattern
    · exact ih (.inl hurl)
    · rfl
  | disable _ ih => exact ih hpattern
  | applyEdit _ _ _ ih => exact ih hpattern
  | ofStored h =>
    obtain ⟨-, -, -, extraction, -, rfl⟩ := StoredSite.toRule_eq_ok_iff.1 h
    exact hpattern.elim StoredSite.ignoreCase_of_mem_caselessPattern
      StoredSite.ignoreCase_of_mem_caselessPattern

end Rule.Authored

end ShowScout
