import ShowScout.Proofs.Rule.FirstMatch
import ShowScout.Proofs.Settings.Merge

/-!
# Imports do not take over pages

An import that skips what is there already only adds sites behind the stored ones. A page that had a
rule keeps it, whatever the import holds.
-/

namespace ShowScout

/-- The rule of the first site that describes one for the address. -/
def firstRuleOf (sites : List StoredSite) (url : String) : Option Rule :=
  sites.findSome? fun site => site.toRule.toOption.filter (·.Qualifies url)

theorem matchRule_rulesOf (sites : List StoredSite) (url : String) :
    matchRule (rulesOf sites) url = firstRuleOf sites url := by
  induction sites with
  | nil => rfl
  | cons site rest ih =>
    have hone : matchRule (rulesOf [site]) url = firstRuleOf [site] url := by
      cases hsite : site.toRule.toOption <;>
        simp [rulesOf, matchRule, firstRuleOf, hsite, List.find?_singleton, Option.filter,
          ← Rule.appliesTo_iff]
    have hsplit : rulesOf (site :: rest) = rulesOf [site] ++ rulesOf rest :=
      List.filterMap_append (l := [site])
    rw [hsplit, matchRule_append, hone, ih, firstRuleOf, firstRuleOf, firstRuleOf,
      ← List.findSome?_append, List.singleton_append]

/-- An import that skips adds some of its sites, in its order, behind those that are there. -/
theorem exists_added_of_skip (s imported : Settings) (only : Option (List String)) :
    ∃ added, (s.merge imported { duplicates := .skip, only }).1.sites = s.sites ++ added ∧
      added.Sublist imported.sites := by
  set o : MergeOptions := { duplicates := .skip, only }
  refine ⟨firstOfEach (newSites s.sites (o.selected imported.sites)), ?_, ?_⟩
  · rw [Settings.merge_eq]
    exact foldl_mergeSite_skip _ _ _
  · rw [← o.filter_selects]
    exact ((firstOfEach_sublist _).trans List.filter_sublist).trans List.filter_sublist

/-- An address for which there is a rule keeps it through an import that skips; one for which there
is none gets the first rule for it among the sites that were added, which are sites of the import in
its order. -/
theorem Settings.matchRule_merge_skip (s imported : Settings) (only : Option (List String))
    (url : String) :
    let merged := (s.merge imported { duplicates := .skip, only }).1
    let added := merged.sites.drop s.sites.length
    merged.sites = s.sites ++ added ∧
    added.Sublist imported.sites ∧
    match matchRule s.rules url with
    | some rule =>
      matchRule merged.rules url = some rule ∧ matchIndex merged.rules url = matchIndex s.rules url
    | none => matchRule merged.rules url = firstRuleOf added url := by
  intro merged added
  obtain ⟨new, hsites, hsublist⟩ := exists_added_of_skip s imported only
  have hadded : added = new := by
    simp only [added, merged, hsites, List.drop_left]
  have hrules : merged.rules = s.rules ++ rulesOf new := by
    simp only [Settings.rules, merged, hsites, rulesOf, List.filterMap_append]
  rw [hadded, hrules, matchRule_append, matchIndex_append, matchRule_rulesOf]
  refine ⟨hsites, hsublist, ?_⟩
  cases hmatch : matchRule s.rules url with
  | none => rfl
  | some rule =>
    obtain ⟨index, hindex⟩ : ∃ index, matchIndex s.rules url = some index := by
      rw [matchRule_eq_getElem?, Option.bind_eq_some_iff] at hmatch
      exact ⟨hmatch.choose, hmatch.choose_spec.1⟩
    simp [hindex]

end ShowScout
