import Mathlib.Data.List.Forall2
import ShowScout.Proofs.Text.Trim
import ShowScout.Rule.Match

/-!
# Records that describe a rule

A record describes a rule if and only if it is complete: it has a name, a host and a place on the
page, and says one way to find the title. All that is wrong with another one is collected here, and
the first of these faults is the one that is reported. Blanks make no difference to any of this, and
neither do the members of unknown keys.
-/

namespace ShowScout

/-! ## Complete records -/

namespace StoredSite

/-- The record has all that a rule needs, and nothing that contradicts it. -/
structure IsComplete (site : StoredSite) : Prop where
  name : Text.trim site.name ≠ ""
  host : Text.trim site.host ≠ ""
  injectionXpath : Text.trim site.injectionXpath ≠ ""
  /-- Exactly one of the two methods is given. -/
  method : Text.IsGiven site.nameExtractionRegex ↔ ¬ Text.IsGiven site.nameExtractionXpath

/-- All that is wrong with a record, in the order in which it is told. -/
def faults (site : StoredSite) : List RuleError :=
  let name := Text.trim site.name
  (if name = "" ∨ Text.trim site.host = "" then [.missingIdentity] else []) ++
  (if Text.trim site.injectionXpath = "" then [.missingInjectionXpath name] else []) ++
  (if ¬ Text.IsGiven site.nameExtractionRegex ∧ ¬ Text.IsGiven site.nameExtractionXpath then
    [.noExtractionMethod name] else []) ++
  (if Text.IsGiven site.nameExtractionRegex ∧ Text.IsGiven site.nameExtractionXpath then
    [.conflictingExtractionMethods name] else [])

/-- The record differs from the other one by blanks only, by the flag of an enabled site or by its
members of unknown keys. -/
structure Restates (copy site : StoredSite) : Prop where
  name : Text.Pads copy.name site.name
  host : Text.Pads copy.host site.host
  injectionXpath : Text.Pads copy.injectionXpath site.injectionXpath
  urlRegex : Text.SaysSame copy.urlRegex site.urlRegex
  contentRegex : Text.SaysSame copy.contentRegex site.contentRegex
  nameExtractionRegex : Text.SaysSame copy.nameExtractionRegex site.nameExtractionRegex
  nameExtractionXpath : Text.SaysSame copy.nameExtractionXpath site.nameExtractionXpath
  enabled : copy.enabled = site.enabled ∨ site.enabled = none ∧ copy.enabled = some true

variable {site copy : StoredSite} {error : RuleError}

theorem faults_eq_nil_iff : site.faults = [] ↔ site.IsComplete := by
  have hone (regex xpath : Prop) :
      (regex ↔ ¬ xpath) ↔ ¬ (¬ regex ∧ ¬ xpath) ∧ ¬ (regex ∧ xpath) := by
    tauto
  have hfaults : site.faults = [] ↔
      ¬ (Text.trim site.name = "" ∨ Text.trim site.host = "") ∧
        Text.trim site.injectionXpath ≠ "" ∧
        ¬ (¬ Text.IsGiven site.nameExtractionRegex ∧ ¬ Text.IsGiven site.nameExtractionXpath) ∧
        ¬ (Text.IsGiven site.nameExtractionRegex ∧ Text.IsGiven site.nameExtractionXpath) := by
    simp only [faults, List.append_eq_nil_iff, ite_eq_right_iff, List.cons_ne_nil, imp_false,
      and_assoc]
  rw [hfaults, not_or, ← hone]
  constructor
  · rintro ⟨⟨hname, hhost⟩, hxpath, hmethod⟩
    exact ⟨hname, hhost, hxpath, hmethod⟩
  · rintro ⟨hname, hhost, hxpath, hmethod⟩
    exact ⟨⟨hname, hhost⟩, hxpath, hmethod⟩

/-- A record gives a rule unless something is wrong with it, and then the first fault. -/
theorem head?_faults (site : StoredSite) :
    site.faults.head? = match site.toRule with
      | .ok _ => none
      | .error error => some error := by
  simp only [faults, toRule, Bool.or_eq_true, String.isEmpty_iff]
  by_cases hidentity : Text.trim site.name = "" ∨ Text.trim site.host = ""
  · simp only [if_pos hidentity, List.cons_append, List.head?_cons]
  by_cases hxpath : Text.trim site.injectionXpath = ""
  · simp only [if_neg hidentity, if_pos hxpath, List.nil_append, List.cons_append, List.head?_cons]
  -- only the methods are left to be wrong
  simp only [if_neg hidentity, if_neg hxpath, List.nil_append, Text.isGiven_iff, extraction]
  cases Text.nonBlank? site.nameExtractionRegex <;>
    cases Text.nonBlank? site.nameExtractionXpath <;>
    simp [bind, Except.bind, pure, Except.pure]

theorem toRule_eq_error_iff : site.toRule = .error error ↔ site.faults.head? = some error := by
  rw [head?_faults]
  cases site.toRule <;> simp

theorem exists_toRule_eq_ok_iff : (∃ rule, site.toRule = .ok rule) ↔ site.IsComplete := by
  rw [← faults_eq_nil_iff, ← List.head?_eq_none_iff, head?_faults]
  cases site.toRule <;> simp

theorem Restates.toRule_eq (h : copy.Restates site) : copy.toRule = site.toRule := by
  have henabled : copy.isEnabled = site.isEnabled := by
    rcases h.enabled with heq | ⟨hsite, hcopy⟩
    · rw [isEnabled, isEnabled, heq]
    · rw [isEnabled, isEnabled, hsite, hcopy]
      rfl
  simp only [toRule, extraction, caselessPattern, h.name.trim_eq, h.host.trim_eq,
    h.injectionXpath.trim_eq, h.urlRegex.nonBlank?_eq, h.contentRegex.nonBlank?_eq,
    h.nameExtractionRegex.nonBlank?_eq, h.nameExtractionXpath.nonBlank?_eq, henabled]

instance (site : StoredSite) : Decidable site.IsComplete :=
  decidable_of_iff _ faults_eq_nil_iff

end StoredSite

/-! ## Lists of records -/

/-- The rules of a list are those of its complete records, in their order. -/
theorem forall₂_rulesOf (sites : List StoredSite) :
    List.Forall₂ (fun site rule => site.toRule = .ok rule)
      (sites.filter fun site => site.IsComplete) (rulesOf sites) := by
  induction sites with
  | nil => exact .nil
  | cons site rest ih =>
    by_cases hcomplete : site.IsComplete
    · obtain ⟨rule, hrule⟩ := StoredSite.exists_toRule_eq_ok_iff.2 hcomplete
      have hrules : rulesOf (site :: rest) = rule :: rulesOf rest :=
        List.filterMap_cons_some (by rw [hrule]; rfl)
      rw [List.filter_cons_of_pos (by simpa using hcomplete), hrules]
      exact .cons hrule ih
    · have hnone : site.toRule.toOption = none := by
        cases hrule : site.toRule with
        | error error => rfl
        | ok rule => exact absurd (StoredSite.exists_toRule_eq_ok_iff.1 ⟨rule, hrule⟩) hcomplete
      have hrules : rulesOf (site :: rest) = rulesOf rest := List.filterMap_cons_none hnone
      rwa [List.filter_cons_of_neg (by simpa using hcomplete), hrules]

/-- A record describes a rule if and only if it is complete, and of any other one the first of its
faults is reported. Blanks around the texts, blank fields in place of missing ones, the flag of an
enabled site and the members of unknown keys make no difference to what a record describes. A list of
records gives the rules of those that are complete, in their order. -/
theorem described_iff_complete :
    (∀ site : StoredSite, (∃ rule, site.toRule = .ok rule) ↔ site.IsComplete) ∧
    (∀ (site : StoredSite) (error : RuleError),
      site.toRule = .error error ↔ site.faults.head? = some error) ∧
    (∀ site copy : StoredSite, copy.Restates site → copy.toRule = site.toRule) ∧
    ∀ sites : List StoredSite,
      List.Forall₂ (fun site rule => site.toRule = .ok rule)
        (sites.filter fun site => site.IsComplete) (rulesOf sites) :=
  ⟨fun _ => StoredSite.exists_toRule_eq_ok_iff, fun _ _ => StoredSite.toRule_eq_error_iff,
    fun _ _ h => h.toRule_eq, forall₂_rulesOf⟩

/-- A record in the fewest words. -/
def StoredSite.terse : StoredSite where
  name := "TV Maze"
  host := "tvmaze.com"
  nameExtractionXpath := some "//h1"
  injectionXpath := "//h2"

/-- The same record as a form may store it, with blank fields and a key of its own. -/
def StoredSite.wordy : StoredSite where
  name := " TV Maze\u00a0"
  host := "tvmaze.com\n"
  urlRegex := some ""
  nameExtractionRegex := some "\t\u2003"
  nameExtractionXpath := some "//h1"
  injectionXpath := "\u3000//h2"
  enabled := some true
  extra := [("season", .number (.natural 2))]

theorem described_iff_complete_wordy :
    StoredSite.wordy.Restates .terse ∧ StoredSite.wordy.toRule = StoredSite.terse.toRule ∧
      ∃ rule, StoredSite.wordy.toRule = .ok rule := by
  have hrestates : StoredSite.wordy.Restates .terse :=
    { name := ⟨[' '], ['\u00a0'], List.forall_mem_singleton.2 rfl, List.forall_mem_singleton.2 rfl,
        by decide⟩
      host := ⟨[], ['\n'], List.forall_mem_nil _, List.forall_mem_singleton.2 rfl, by decide⟩
      injectionXpath := ⟨['\u3000'], [], List.forall_mem_singleton.2 rfl, List.forall_mem_nil _,
        by decide⟩
      urlRegex := .inr (by decide)
      contentRegex := .inl rfl
      nameExtractionRegex := .inr (by decide)
      nameExtractionXpath := .inl rfl
      enabled := .inr ⟨rfl, rfl⟩ }
  obtain ⟨haccepted, -, hrestated, -⟩ := described_iff_complete
  exact ⟨hrestates, hrestated _ _ hrestates, (haccepted .wordy).2 (by decide)⟩

end ShowScout
