import ShowScout.Proofs.Rule.Broken
import ShowScout.Proofs.Text.Trim

/-!
# Storing a rule and reading it back

A record is trimmed when it is read, its blank fields count as not given, and every pattern gets
the letter case of its place. So a rule is read back as it was stored exactly if it already has the
form in which rules are read (`Rule.IsSettled`). A rule that was read has this form.
-/

namespace ShowScout

/-! ## What is compared -/

/-- The name of the method. -/
def Extraction.kind : Extraction → String
  | .regex _ => "regex"
  | .xpath _ => "xpath"

/-- What the author wrote for the method. -/
def Extraction.source : Extraction → String
  | .regex pattern => pattern.source
  | .xpath expression => expression

/-- The method as it is read, with a pattern that does not ignore case. -/
def Extraction.cased : Extraction → Extraction
  | .regex pattern => .regex { pattern with ignoreCase := false }
  | .xpath expression => .xpath expression

theorem Extraction.kind_cased (e : Extraction) : e.cased.kind = e.kind := by
  cases e <;> rfl

theorem Extraction.source_cased (e : Extraction) : e.cased.source = e.source := by
  cases e <;> rfl

theorem Extraction.cased_eq_self_iff {e : Extraction} :
    e.cased = e ↔ ∀ pattern, e = .regex pattern → pattern.ignoreCase = false := by
  cases e with
  | xpath expression => simp [cased]
  | regex pattern =>
    constructor
    · rintro h _ ⟨⟩
      rw [cased, Extraction.regex.injEq] at h
      rw [← h]
    · intro h
      rw [cased, ← h pattern rfl]

namespace Rule

/-- The rules say the same, except for the letter case of a pattern for the title. Patterns that are
equal have one source and one letter case, and so are either both valid or both broken. -/
structure Matches (r q : Rule) : Prop where
  name : r.name = q.name
  host : r.host = q.host
  urlPattern : r.urlPattern = q.urlPattern
  contentPattern : r.contentPattern = q.contentPattern
  kind : r.extraction.kind = q.extraction.kind
  source : r.extraction.source = q.extraction.source
  injectionXpath : r.injectionXpath = q.injectionXpath
  enabled : r.enabled = q.enabled

/-- The rule has the form in which rules are read. -/
structure IsSettled (r : Rule) : Prop where
  name : r.name ≠ "" ∧ Text.IsTrimmed r.name
  host : r.host ≠ "" ∧ Text.IsTrimmed r.host
  injectionXpath : r.injectionXpath ≠ "" ∧ Text.IsTrimmed r.injectionXpath
  extraction : Text.isAllBlank r.extraction.source = false
  urlPattern : ∀ pattern ∈ r.urlPattern, Text.isAllBlank pattern.source = false
  contentPattern : ∀ pattern ∈ r.contentPattern, Text.isAllBlank pattern.source = false

end Rule

/-! ## Reading back -/

namespace StoredSite

variable {rule reloaded : Rule}

/-- A record of a rule says one method, and is refused only if that is blank. -/
theorem extraction_ofRule (rule : Rule) (name : String) :
    (ofRule rule).extraction name =
      if Text.isAllBlank rule.extraction.source then .error (.noExtractionMethod name)
      else .ok rule.extraction.cased := by
  cases h : rule.extraction with
  | regex pattern =>
    cases hblank : Text.isAllBlank pattern.source <;>
      simp [extraction, ofRule, h, Text.nonBlank?, Option.filter, Extraction.source, hblank,
        Extraction.cased]
  | xpath expression =>
    cases hblank : Text.isAllBlank expression <;>
      simp [extraction, ofRule, h, Text.nonBlank?, Option.filter, Extraction.source, hblank,
        Extraction.cased]

/-- A pattern that ignores case is read back unless it is blank. -/
theorem caselessPattern_source {pattern : Option Pattern}
    (hcase : ∀ p ∈ pattern, p.ignoreCase) :
    caselessPattern (pattern.map (·.source)) = pattern ↔
      ∀ p ∈ pattern, Text.isAllBlank p.source = false := by
  cases pattern with
  | none => simp [caselessPattern, Text.nonBlank?]
  | some p =>
    have hp : p.ignoreCase = true := hcase p rfl
    cases hblank : Text.isAllBlank p.source with
    | true => simp [caselessPattern_of_blank hblank, hblank]
    | false => simp [caselessPattern_of_not_blank hblank, hblank, ← hp]

/-- What a rule is read back as. -/
theorem toRule_ofRule_eq_ok_iff :
    (ofRule rule).toRule = .ok reloaded ↔
      Text.trim rule.name ≠ "" ∧ Text.trim rule.host ≠ "" ∧ Text.trim rule.injectionXpath ≠ "" ∧
        Text.isAllBlank rule.extraction.source = false ∧
        reloaded =
          { name := Text.trim rule.name
            host := Text.trim rule.host
            urlPattern := caselessPattern (rule.urlPattern.map (·.source))
            contentPattern := caselessPattern (rule.contentPattern.map (·.source))
            extraction := rule.extraction.cased
            injectionXpath := Text.trim rule.injectionXpath
            enabled := rule.enabled } := by
  have henabled : (ofRule rule).isEnabled = rule.enabled := by
    cases h : rule.enabled <;> simp [isEnabled, ofRule, h]
  rw [toRule_eq_ok_iff, extraction_ofRule, henabled]
  cases Text.isAllBlank rule.extraction.source with
  | true => simp
  | false => simp [ofRule]

end StoredSite

namespace Rule

variable {rule reloaded : Rule}

/-- A rule in the form in which rules are read is read back, with its pattern for the title made to
heed the letter case. -/
theorem IsSettled.toRule_ofRule (h : rule.IsSettled) (hauthored : rule.Authored) :
    (StoredSite.ofRule rule).toRule = .ok { rule with extraction := rule.extraction.cased } := by
  have hname := Text.trim_eq_self_iff.2 h.name.2
  have hhost := Text.trim_eq_self_iff.2 h.host.2
  have hxpath := Text.trim_eq_self_iff.2 h.injectionXpath.2
  have hurl :=
    (StoredSite.caselessPattern_source fun _ hp => hauthored.ignoreCase (.inl hp)).2 h.urlPattern
  have hcontent :=
    (StoredSite.caselessPattern_source fun _ hp => hauthored.ignoreCase (.inr hp)).2
      h.contentPattern
  rw [StoredSite.toRule_ofRule_eq_ok_iff, hname, hhost, hxpath, hurl, hcontent]
  exact ⟨h.name.1, h.host.1, h.injectionXpath.1, h.extraction, rfl⟩

theorem isSettled_of_matches (hauthored : rule.Authored)
    (hreload : (StoredSite.ofRule rule).toRule = .ok reloaded) (h : reloaded.Matches rule) :
    rule.IsSettled := by
  obtain ⟨hname, hhost, hxpath, hsource, rfl⟩ := StoredSite.toRule_ofRule_eq_ok_iff.1 hreload
  -- what is read back is trimmed, so what it is equal to was trimmed before
  have htrimmed {text : String} (hne : Text.trim text ≠ "") (heq : Text.trim text = text) :
      text ≠ "" ∧ Text.IsTrimmed text :=
    ⟨heq ▸ hne, Text.trim_eq_self_iff.1 heq⟩
  exact
    { name := htrimmed hname h.name
      host := htrimmed hhost h.host
      injectionXpath := htrimmed hxpath h.injectionXpath
      extraction := hsource
      urlPattern :=
        (StoredSite.caselessPattern_source fun _ hp => hauthored.ignoreCase (.inl hp)).1
          h.urlPattern
      contentPattern :=
        (StoredSite.caselessPattern_source fun _ hp => hauthored.ignoreCase (.inr hp)).1
          h.contentPattern }

theorem matches_cased (rule : Rule) :
    { rule with extraction := rule.extraction.cased }.Matches rule where
  name := rfl
  host := rfl
  urlPattern := rfl
  contentPattern := rfl
  kind := rule.extraction.kind_cased
  source := rule.extraction.source_cased
  injectionXpath := rfl
  enabled := rfl

end Rule

namespace StoredSite

variable {site : StoredSite} {rule : Rule}

theorem not_isAllBlank_of_mem_caselessPattern {field : Option String} {pattern : Pattern}
    (h : pattern ∈ caselessPattern field) : Text.isAllBlank pattern.source = false := by
  obtain ⟨source, hsource, rfl⟩ := Option.map_eq_some_iff.1 h
  exact Text.isAllBlank_of_nonBlank? hsource

/-- The method that a record says is not blank, and heeds the letter case. -/
theorem extraction_settled {name : String} {method : Extraction}
    (h : site.extraction name = .ok method) :
    Text.isAllBlank method.source = false ∧ method.cased = method := by
  unfold extraction at h
  split at h
  · rename_i hregex _
    cases h
    exact ⟨Text.isAllBlank_of_nonBlank? hregex, rfl⟩
  · rename_i _ hxpath
    cases h
    exact ⟨Text.isAllBlank_of_nonBlank? hxpath, rfl⟩
  · cases h
  · cases h

/-- A rule that was read has the form in which rules are read. -/
theorem isSettled_of_toRule (h : site.toRule = .ok rule) : rule.IsSettled := by
  obtain ⟨hname, hhost, hxpath, method, hmethod, rfl⟩ := toRule_eq_ok_iff.1 h
  exact
    { name := ⟨hname, Text.isTrimmed_trim _⟩
      host := ⟨hhost, Text.isTrimmed_trim _⟩
      injectionXpath := ⟨hxpath, Text.isTrimmed_trim _⟩
      extraction := (extraction_settled hmethod).1
      urlPattern := fun _ => not_isAllBlank_of_mem_caselessPattern
      contentPattern := fun _ => not_isAllBlank_of_mem_caselessPattern }

end StoredSite

/-- A rule is read back as the same, but perhaps for the letter case of a pattern for the title, if
and only if it has the form in which rules are read. It is read back exactly as it was if that
pattern heeds the letter case too, as it does in rules that were read: these are stored and read
back without any change. -/
theorem read_back_iff :
    (∀ rule : Rule, rule.Authored →
      ((∃ reloaded, (StoredSite.ofRule rule).toRule = .ok reloaded ∧ reloaded.Matches rule) ↔
        rule.IsSettled) ∧
      ((StoredSite.ofRule rule).toRule = .ok rule ↔
        rule.IsSettled ∧
          ∀ pattern, rule.extraction = .regex pattern → pattern.ignoreCase = false)) ∧
    ∀ (site : StoredSite) (rule : Rule), site.toRule = .ok rule →
      (StoredSite.ofRule rule).toRule = .ok rule := by
  have hexact (rule : Rule) (hauthored : rule.Authored) :
      (StoredSite.ofRule rule).toRule = .ok rule ↔
        rule.IsSettled ∧
          ∀ pattern, rule.extraction = .regex pattern → pattern.ignoreCase = false := by
    rw [← Extraction.cased_eq_self_iff]
    constructor
    · intro hreload
      obtain ⟨-, -, -, -, hrule⟩ := StoredSite.toRule_ofRule_eq_ok_iff.1 hreload
      have hcased : rule.extraction.cased = rule.extraction := (congrArg (·.extraction) hrule).symm
      have hself : rule.Matches rule := ⟨rfl, rfl, rfl, rfl, rfl, rfl, rfl, rfl⟩
      exact ⟨Rule.isSettled_of_matches hauthored hreload hself, hcased⟩
    · rintro ⟨hsettled, hcased⟩
      rw [hsettled.toRule_ofRule hauthored, hcased]
  refine ⟨fun rule hauthored => ⟨⟨?_, ?_⟩, hexact rule hauthored⟩, ?_⟩
  · rintro ⟨reloaded, hreload, hmatches⟩
    exact Rule.isSettled_of_matches hauthored hreload hmatches
  · intro hsettled
    exact ⟨_, hsettled.toRule_ofRule hauthored, rule.matches_cased⟩
  · intro site rule h
    obtain ⟨-, -, -, method, hmethod, hrule⟩ := StoredSite.toRule_eq_ok_iff.1 h
    refine (hexact rule (.ofStored h)).2 ⟨StoredSite.isSettled_of_toRule h, ?_⟩
    rw [← Extraction.cased_eq_self_iff, hrule]
    exact (StoredSite.extraction_settled hmethod).2

/-- A record with blanks around its texts, and with a blank pattern. -/
def StoredSite.padded : StoredSite where
  name := " TV Maze\u00a0"
  host := "tvmaze.com\n"
  urlRegex := some "\t"
  nameExtractionRegex := some " - (.+)$"
  injectionXpath := " //h1"

/-- A rule with a pattern for the title that ignores case. -/
def Rule.caseless : Rule where
  name := "TV Maze"
  host := "tvmaze.com"
  urlPattern := some { source := "/shows/", ignoreCase := true }
  extraction := .regex { source := " - (.+)$", ignoreCase := true }
  injectionXpath := "//h1"

theorem read_back_iff_padded :
    (∃ rule, StoredSite.padded.toRule = .ok rule ∧ rule.name = "TV Maze" ∧
      (StoredSite.ofRule rule).toRule = .ok rule) ∧
    (∃ reloaded, (StoredSite.ofRule .caseless).toRule = .ok reloaded ∧
      reloaded.Matches .caseless) ∧
    (StoredSite.ofRule .caseless).toRule ≠ .ok .caseless := by
  have hauthored : Rule.caseless.Authored := .withUrlRegex "/shows/" (.new _ _ _ _)
  have hsettled : Rule.caseless.IsSettled :=
    { name := ⟨by decide, Text.trim_eq_self_iff.1 (by decide)⟩
      host := ⟨by decide, Text.trim_eq_self_iff.1 (by decide)⟩
      injectionXpath := ⟨by decide, Text.trim_eq_self_iff.1 (by decide)⟩
      extraction := by decide
      urlPattern := by decide
      contentPattern := by decide }
  obtain ⟨hread, hloaded⟩ := read_back_iff
  obtain ⟨hmatches, hexact⟩ := hread .caseless hauthored
  refine ⟨⟨_, rfl, by decide, hloaded .padded _ rfl⟩, hmatches.2 hsettled, fun hreload => ?_⟩
  have hcased := (hexact.1 hreload).2 _ rfl
  cases hcased

end ShowScout
