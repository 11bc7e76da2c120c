import Mathlib.Data.List.Permutation
import ShowScout.Proofs.Poll.NeverReady
import ShowScout.Proofs.Regex.Literal
import ShowScout.Proofs.Settings.Documents
import ShowScout.Proofs.Text.Trim

/-!
# Broken rules are inert

A rule with a broken pattern is chosen for no address, or waits for content for ever, or finds no
title, and it is stored as it was written. A rule that is read back differs from the one that was
stored in two ways: a blank pattern counts as none, and every pattern is given the letter case of
its place.
-/

namespace ShowScout

variable {pattern : Pattern} {rule reloaded : Rule}

/-! ## Storing and reading back -/

theorem StoredSite.readable_ofRule (rule : Rule) (levels : Nat) :
    (ofRule rule).Readable levels :=
  .nil knownKeys levels

/-- The record of a rule is read back from the document that it is added to. -/
theorem Settings.ofJson_append_ofRule {s : Settings} (h : s.Readable)
    (hwhole : ∀ n ∈ s.unknownNumbers, n.isWhole) (rule : Rule) :
    let stored : Settings := { s with sites := s.sites ++ [StoredSite.ofRule rule] }
    ofJson stored.toPrettyJson = .ok stored := by
  intro stored
  have hnumbers : stored.unknownNumbers = s.unknownNumbers := by
    simp [stored, unknownNumbers, StoredSite.ofRule, Json.numbersOfMembers]
  refine ofJson_toPrettyJson ⟨h.extra, fun site hsite => ?_⟩ (by rwa [hnumbers])
  rcases List.mem_append.1 hsite with hsite | hsite
  · exact h.sites site hsite
  · rw [List.mem_singleton.1 hsite]
    exact StoredSite.readable_ofRule rule _

/-- A broken pattern that ignores case is read back unless it is blank. -/
theorem StoredSite.keptBroken_caselessPattern (h : pattern.isValid = false)
    (hblank : Text.isAllBlank pattern.source = false) :
    ∃ kept ∈ caselessPattern (some pattern.source), pattern.KeptBroken true kept :=
  ⟨_, caselessPattern_of_not_blank hblank, Pattern.keptBroken h true⟩

/-! ## Patterns that are too long -/

/-- Blanks stand for themselves. -/
theorem Regex.isLiteral_of_isBlank {c : Char} (h : Text.isBlank c) : isLiteral c := by
  have hsigns : "?*+()|[\x7b\\.^$".toList.all (!Text.isBlank ·) := rfl
  have hne : ∀ sign ∈ "?*+()|[\x7b\\.^$".toList, c ≠ sign := by
    rintro sign hmem rfl
    simpa [h] using List.all_eq_true.1 hsigns c hmem
  simp only [String.reduceToList, List.forall_mem_cons] at hne
  simp [isLiteral, signRounds, hne]

/-- A text of blanks is a pattern unless it is too long. -/
theorem Pattern.not_isValid_of_blanks (hblanks : ∀ c ∈ pattern.source.toList, Text.isBlank c)
    (hlong : Regex.footprintLimit < pattern.source.length * Regex.stateSize) :
    pattern.isValid = false := by
  rw [Bool.eq_false_iff]
  intro hvalid
  obtain ⟨parsed, hparse, hfits⟩ := isValid_iff.1 hvalid
  rw [Regex.Pattern.parse_literals fun c hc => Regex.isLiteral_of_isBlank (hblanks c hc)] at hparse
  cases hparse
  -- one direction is enough to be too large
  have hsize := Regex.Expr.le_footprint_literals true { ignoreCase := pattern.ignoreCase }
    pattern.source.toList
  simp only [Regex.Expr.fits, Bool.and_eq_true, decide_eq_true_eq] at hfits
  rw [String.length_toList] at hsize
  omega

/-- Within ASCII, a letter takes up more if its case is ignored. -/
theorem Regex.footprint_letter (ignoreCase forward : Bool) :
    (literalExpr { ignoreCase, unicode := false } 'k').footprint forward =
      if ignoreCase then 80 else 32 := by
  cases ignoreCase <;> cases forward <;> cbv

/-- A long text of letters may be a pattern only if case counts. -/
theorem Pattern.isValid_letters (n : Nat) (ignoreCase : Bool) :
    ({ source := "(?-u)" ++ String.ofList (List.replicate n 'k'), ignoreCase } : Pattern).isValid ↔
      32 + n * (if ignoreCase then 80 else 32) ≤ Regex.footprintLimit := by
  have hsource : ("(?-u)" ++ String.ofList (List.replicate n 'k')).toList =
      "(?-u)".toList ++ List.replicate n 'k' := by
    simp
  have hletters : ∀ c ∈ List.replicate n 'k', Regex.isLiteral c := by
    simp [Regex.isLiteral, Regex.signRounds]
  have hsize (forward : Bool) :
      (Regex.Expr.seqs (.empty :: (List.replicate n 'k').map
        (Regex.literalExpr { ignoreCase, unicode := false }))).footprint forward =
      32 + n * (if ignoreCase then 80 else 32) := by
    rw [Regex.Expr.footprint_seqs forward (List.cons_ne_nil _ _)]
    simp [Regex.footprint_letter, Regex.Expr.footprint, Regex.stateSize]
  rw [isValid_iff, hsource, Regex.Pattern.parse_asciiLiterals hletters]
  simp only [Regex.Expr.fits, Option.some.injEq, exists_eq_left', hsize, Bool.and_self,
    decide_eq_true_eq]

/-- A rule for any address of one site. -/
def Rule.tvMaze (contentPattern : Option Pattern) (extraction : Extraction) : Rule where
  name := "TV Maze"
  host := "tvmaze.com"
  contentPattern
  extraction
  injectionXpath := "//h1"

theorem exists_reload_tvMaze {contentPattern : Option Pattern} {extraction : Extraction}
    (found : Extraction)
    (h : (StoredSite.ofRule (.tvMaze contentPattern extraction)).extraction "TV Maze" = .ok found) :
    ∃ reloaded, (StoredSite.ofRule (.tvMaze contentPattern extraction)).toRule = .ok reloaded := by
  have hname : Text.trim "TV Maze" = "TV Maze" := by decide
  have hhost : Text.trim "tvmaze.com" ≠ "" := by decide
  have hxpath : Text.trim "//h1" ≠ "" := by decide
  refine ⟨_, StoredSite.toRule_eq_ok_iff.2 ⟨?_, hhost, hxpath, found, ?_, rfl⟩⟩
  · rw [StoredSite.ofRule, Rule.tvMaze, hname]
    decide
  · simpa [StoredSite.ofRule, Rule.tvMaze, hname] using h

/-- A pattern of so many blanks that it is broken is not read back. -/
theorem reload_blanks {n : Nat} (hn : Regex.footprintLimit < n * Regex.stateSize) :
    let content : Pattern := { source := .ofList (List.replicate n ' '), ignoreCase := true }
    let rule : Rule := .tvMaze (some content) (.xpath "string(//h1)")
    content.isValid = false ∧
      ∃ reloaded, (StoredSite.ofRule rule).toRule = .ok reloaded ∧
        reloaded.contentPattern = none := by
  intro content rule
  have hblanks : ∀ c ∈ content.source.toList, Text.isBlank c := by
    rw [String.toList_ofList]
    intro c hc
    rw [List.eq_of_mem_replicate hc]
    rfl
  have hlength : content.source.length = n := by
    rw [String.length_ofList, List.length_replicate]
  obtain ⟨reloaded, hreload⟩ : ∃ reloaded, (StoredSite.ofRule rule).toRule = .ok reloaded :=
    exists_reload_tvMaze (.xpath "string(//h1)") rfl
  refine ⟨Pattern.not_isValid_of_blanks hblanks (by rwa [hlength]), reloaded, hreload, ?_⟩
  rw [(patterns_of_reload hreload).2]
  exact StoredSite.caselessPattern_of_blank (Text.isAllBlank_iff.2 hblanks)

/-- A pattern for the title that is broken only because it ignores case is not read back as
broken. -/
theorem reload_letters {n : Nat} (hfits : 32 + n * 32 ≤ Regex.footprintLimit)
    (hlong : Regex.footprintLimit < 32 + n * 80) :
    let source := "(?-u)" ++ String.ofList (List.replicate n 'k')
    let rule : Rule := .tvMaze none (.regex { source, ignoreCase := true })
    ({ source, ignoreCase := true } : Pattern).isValid = false ∧
      ∃ reloaded kept, (StoredSite.ofRule rule).toRule = .ok reloaded ∧
        reloaded.extraction = .regex kept ∧ kept.isValid := by
  intro source rule
  have hbroken : ({ source, ignoreCase := true } : Pattern).isValid = false := by
    rw [Bool.eq_false_iff, Ne, Pattern.isValid_letters]
    exact Nat.not_le_of_lt hlong
  -- the parenthesis is no blank, so that the record has a pattern for the title
  have hblank : Text.isAllBlank source = false := by
    rw [Bool.eq_false_iff, Ne, Text.isAllBlank_iff]
    intro hblanks
    have hopening := hblanks '(' (by simp [source])
    cases hopening
  have hextraction : (StoredSite.ofRule rule).extraction "TV Maze" =
      .ok (.regex { source, ignoreCase := false }) := by
    simp [rule, StoredSite.extraction, StoredSite.ofRule, Rule.tvMaze, Text.nonBlank?,
      Option.filter, hblank]
  obtain ⟨reloaded, hreload⟩ : ∃ reloaded, (StoredSite.ofRule rule).toRule = .ok reloaded :=
    exists_reload_tvMaze _ hextraction
  exact ⟨hbroken, reloaded, _, hreload, extraction_of_reload hreload rfl,
    (Pattern.isValid_letters n false).2 hfits⟩

/-! ## Inert rules -/

/-- A search finds no rule with a broken pattern for addresses, and the same without it. A poller
waits for ever if the pattern for the content is broken and finds nothing if the one for the title
is, so that no run makes an offer. The record of a rule holds the sources of all patterns, also in a
document, and of a rule that is read back from it every broken pattern that is not blank has the
same source; it is broken again if it had the letter case of its place, as authored patterns for
addresses and for the content have. -/
theorem broken_inert (rule : Rule) :
    -- the pattern for addresses
    (∀ pattern ∈ rule.urlPattern, pattern.isValid = false → ∀ rules url,
      matchRule rules url ≠ some rule ∧
      matchRule (rules.filter (· ≠ rule)) url = matchRule rules url ∧
      ∀ first rest, rules = first ++ rule :: rest →
        matchRule (first ++ rest) url = matchRule rules url) ∧
    -- the pattern for the content
    (∀ pattern ∈ rule.contentPattern, pattern.isValid = false → ∀ config : PollConfig,
      (∀ (p : Poller) (page : LivePage), p.state = .waiting →
        p.attempts.toNat < config.maxAttempts.toNat →
        p.tick config rule page =
          .ok ({ attempts := p.attempts + 1 }, [.body], .contentPending)) ∧
      ∀ pages : List LivePage, pages.length ≤ config.maxAttempts.toNat →
        ({} : Poller).ticks config rule pages =
          .ok (pages.mapIdx fun i _ => (.contentPending, Poller.after (i + 1)))) ∧
    -- the pattern for the title
    (∀ pattern, rule.extraction = .regex pattern → pattern.isValid = false →
      ∀ (config : PollConfig) (p p' : Poller) (page : LivePage) (calls : List PageCall)
        (injection : Injection),
        p.tick config rule page ≠ .ok (p', calls, .found injection)) ∧
    -- whole runs
    (∀ pattern, pattern ∈ rule.contentPattern ∨ rule.extraction = .regex pattern →
      pattern.isValid = false → ∀ (setup : PollSetup) (page : LivePage), setup.rule = rule →
        (∀ r injection, setup.run page ≠ .ok (r, .injected injection)) ∧
        (setup.progress page).page.page.injections = page.page.injections ∧
        (setup.progress page).calls.count .inject = 0) ∧
    -- storing
    ((StoredSite.ofRule rule).urlRegex = rule.urlPattern.map (·.source) ∧
      (StoredSite.ofRule rule).contentRegex = rule.contentPattern.map (·.source) ∧
      (∀ pattern, rule.extraction = .regex pattern →
        (StoredSite.ofRule rule).nameExtractionRegex = some pattern.source) ∧
      ∀ s : Settings, s.Readable → (∀ n ∈ s.unknownNumbers, n.isWhole) →
        let stored : Settings := { s with sites := s.sites ++ [StoredSite.ofRule rule] }
        Settings.ofJson stored.toPrettyJson = .ok stored) ∧
    -- reading back
    (∀ reloaded, (StoredSite.ofRule rule).toRule = .ok reloaded →
      ∀ pattern, pattern.isValid = false →
        (pattern ∈ rule.urlPattern →
          (Text.isAllBlank pattern.source → reloaded.urlPattern = none) ∧
          (Text.isAllBlank pattern.source = false →
            ∃ kept ∈ reloaded.urlPattern, pattern.KeptBroken true kept)) ∧
        (pattern ∈ rule.contentPattern →
          (Text.isAllBlank pattern.source → reloaded.contentPattern = none) ∧
          (Text.isAllBlank pattern.source = false →
            ∃ kept ∈ reloaded.contentPattern, pattern.KeptBroken true kept)) ∧
        (rule.extraction = .regex pattern →
          ∃ kept, reloaded.extraction = .regex kept ∧ pattern.KeptBroken false kept)) ∧
    (rule.Authored → ∀ pattern, pattern ∈ rule.urlPattern ∨ pattern ∈ rule.contentPattern →
      pattern.ignoreCase) := by
  refine ⟨?address, ?content, ?title, ?runs, ?storing, ?reading, ?authored⟩
  case address =>
    intro pattern hpattern h rules url
    have hidle := Rule.not_qualifies_of_broken hpattern h url
    refine ⟨matchRule_ne_of_not_qualifies hidle rules,
      matchRule_filter_of_not_qualifies hidle rules, ?_⟩
    rintro first rest rfl
    -- only this place is removed, while the rule may stand in others as well
    have hinsert : matchRule (first ++ [rule] ++ rest) url = matchRule (first ++ rest) url :=
      matchRule_insert (by simpa using hidle)
    rw [← hinsert, List.append_assoc, List.singleton_append]
  case content =>
    intro pattern hpattern h config
    exact ⟨fun p page => Poller.tick_of_broken_content hpattern h page,
      fun pages => Poller.ticks_of_broken_content hpattern h⟩
  case title =>
    intro pattern hextraction h config p p' page calls injection htick
    exact Poller.tick_ne_found (Rule.neverReady_of_extraction hextraction h) htick injection rfl
  case runs =>
    rintro pattern hpattern h setup page rfl
    have hnever : setup.rule.NeverReady := by
      rcases hpattern with hcontent | hextraction
      · exact Rule.neverReady_of_content hcontent h
      · exact Rule.neverReady_of_extraction hextraction h
    exact PollSetup.run_of_neverReady hnever page
  case storing =>
    refine ⟨rfl, rfl, ?_, fun s h hwhole => Settings.ofJson_append_ofRule h hwhole rule⟩
    intro pattern hextraction
    simp [StoredSite.ofRule, hextraction]
  case reading =>
    intro reloaded hreload pattern h
    refine ⟨fun hpattern => ?_, fun hpattern => ?_, fun hextraction => ?_⟩
    · rw [(patterns_of_reload hreload).1, Option.mem_def.1 hpattern]
      exact ⟨StoredSite.caselessPattern_of_blank, StoredSite.keptBroken_caselessPattern h⟩
    · rw [(patterns_of_reload hreload).2, Option.mem_def.1 hpattern]
      exact ⟨StoredSite.caselessPattern_of_blank, StoredSite.keptBroken_caselessPattern h⟩
    · exact ⟨_, extraction_of_reload hreload hextraction, Pattern.keptBroken h false⟩
  case authored => exact fun hauthored _ hpattern => hauthored.ignoreCase hpattern

/-- A rule all of whose patterns are broken. -/
def Rule.unclosed : Rule where
  name := "TV Maze"
  host := "tvmaze.com"
  urlPattern := some { source := "([unclosed", ignoreCase := true }
  contentPattern := some { source := "([unclosed", ignoreCase := true }
  extraction := .regex { source := "([unclosed", ignoreCase := false }
  injectionXpath := "//h1"

theorem broken_inert_unclosed :
    ({ source := "([unclosed", ignoreCase := true } : Pattern).isValid = false ∧
      matchRule [.unclosed] "https://www.tvmaze.com/shows/1" ≠ some .unclosed ∧
      ({} : Poller).tick {} .unclosed {} = .ok ({ attempts := 1 }, [.body], .contentPending) ∧
      (StoredSite.ofRule .unclosed).toRule = .ok .unclosed ∧
      ∃ kept, Rule.unclosed.extraction = .regex kept ∧
        Pattern.KeptBroken { source := "([unclosed", ignoreCase := false } false kept := by
  have hcaseless : ({ source := "([unclosed", ignoreCase := true } : Pattern).isValid = false := rfl
  have hcased : ({ source := "([unclosed", ignoreCase := false } : Pattern).isValid = false := rfl
  have hreload : (StoredSite.ofRule .unclosed).toRule = .ok .unclosed := rfl
  obtain ⟨haddress, hcontent, -, -, -, hreading, -⟩ := broken_inert .unclosed
  have htick := (hcontent _ rfl hcaseless {}).1 {} {} rfl (by decide)
  exact ⟨hcaseless, (haddress _ rfl hcaseless _ _).1, htick, hreload,
    (hreading _ hreload _ hcased).2.2 rfl⟩

/-- What is broken need not be read back as broken. -/
theorem reload_not_broken :
    (let content : Pattern := { source := .ofList (List.replicate 350000 ' '), ignoreCase := true }
     let rule : Rule := .tvMaze (some content) (.xpath "string(//h1)")
     content.isValid = false ∧
       ∃ reloaded, (StoredSite.ofRule rule).toRule = .ok reloaded ∧
         reloaded.contentPattern = none) ∧
    (let source := "(?-u)" ++ String.ofList (List.replicate 200000 'k')
     let rule : Rule := .tvMaze none (.regex { source, ignoreCase := true })
     ({ source, ignoreCase := true } : Pattern).isValid = false ∧
       ∃ reloaded kept, (StoredSite.ofRule rule).toRule = .ok reloaded ∧
         reloaded.extraction = .regex kept ∧ kept.isValid) :=
  ⟨reload_blanks (by decide), reload_letters (by decide) (by decide)⟩

end ShowScout
