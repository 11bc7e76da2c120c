import ShowScout.Proofs.Command.Persistence
import ShowScout.Proofs.Settings.Takeover

/-!
# Switching sites

To enable or disable a site changes its flag and nothing else. For an address this adds the site to
those whose rule is for it or takes it away, so the first of them is another one only if the site
comes first, before it was disabled or since it is enabled. Places are counted in the stored list,
with the sites that describe no rule.
-/

namespace ShowScout

/-! ## Rules and their flags -/

/-- What a rule asks of an address besides being enabled. -/
structure Rule.Fits (rule : Rule) (url : String) : Prop where
  host : rule.host.toList <:+: url.toList
  pattern : ∀ pattern ∈ rule.urlPattern, pattern.Finds url

namespace StoredSite

variable {site : StoredSite} {rule : Rule}

theorem toOption_toRule_eq_some_iff : site.toRule.toOption = some rule ↔ site.toRule = .ok rule := by
  cases site.toRule <;> simp [Except.toOption]

/-- A rule of a record has a host, so this need not be asked. -/
theorem qualifies_iff_of_toRule (h : site.toRule = .ok rule) (url : String) :
    rule.Qualifies url ↔ rule.enabled ∧ rule.Fits url := by
  have hhost : rule.host ≠ "" := by
    obtain ⟨-, hhost, -, -, -, rfl⟩ := toRule_eq_ok_iff.1 h
    exact hhost
  constructor
  · rintro ⟨henabled, -, hinfix, hpattern⟩
    exact ⟨henabled, hinfix, hpattern⟩
  · rintro ⟨henabled, hinfix, hpattern⟩
    exact ⟨henabled, hhost, hinfix, hpattern⟩

/-- The flag of a record becomes that of its rule, and decides nothing else. -/
theorem toRule_switched (site : StoredSite) (enabled : Bool) :
    { site with enabled := some enabled }.toRule =
      site.toRule.map fun rule => { rule with enabled } := by
  have hflag : { site with enabled := some enabled }.isEnabled = enabled := by
    cases enabled <;> rfl
  unfold toRule
  rw [hflag]
  dsimp only
  split
  · rfl
  split
  · rfl
  have hmethod (name : String) :
      { site with enabled := some enabled }.extraction name = site.extraction name := rfl
  rw [hmethod]
  cases site.extraction (Text.trim site.name) <;> rfl

end StoredSite

namespace Settings

variable {s t : Settings} {i j : Nat} {enabled : Bool} {url : String}

/-! ## Places -/

/-- The rule of the site at a place, if there is a site and it describes a rule. -/
def ruleAt? (s : Settings) (i : Nat) : Option Rule :=
  s.sites[i]?.bind fun site => site.toRule.toOption

/-- The places of the sites whose rule is for the address. -/
def placesFor (s : Settings) (url : String) : Set Nat :=
  { i | ∃ rule, s.ruleAt? i = some rule ∧ rule.enabled ∧ rule.Fits url }

/-- The answer is the rule at the first of the places, or none if there are no places. -/
def IsFirstAt (s : Settings) (places : Set Nat) : Option Rule → Prop
  | some rule => ∃ i, IsLeast places i ∧ s.ruleAt? i = some rule
  | none => places = ∅

theorem ruleAt?_eq_some_iff {rule : Rule} :
    s.ruleAt? i = some rule ↔ ∃ site, s.sites[i]? = some site ∧ site.toRule = .ok rule := by
  simp only [ruleAt?, Option.bind_eq_some_iff, StoredSite.toOption_toRule_eq_some_iff]

theorem mem_placesFor_iff : i ∈ s.placesFor url ↔
    ∃ site rule, s.sites[i]? = some site ∧ site.toRule = .ok rule ∧ rule.Qualifies url := by
  constructor
  · rintro ⟨rule, hrule, hasks⟩
    obtain ⟨site, hsite, hof⟩ := ruleAt?_eq_some_iff.1 hrule
    exact ⟨site, rule, hsite, hof, (StoredSite.qualifies_iff_of_toRule hof url).2 hasks⟩
  · rintro ⟨site, rule, hsite, hof, hqualifies⟩
    exact ⟨rule, ruleAt?_eq_some_iff.2 ⟨site, hsite, hof⟩,
      (StoredSite.qualifies_iff_of_toRule hof url).1 hqualifies⟩

/-- The rule for an address is that of the first site whose rule is for it. -/
theorem isFirstAt_matchRule (s : Settings) (url : String) :
    s.IsFirstAt (s.placesFor url) (matchRule s.rules url) := by
  have hkept {site : StoredSite} {rule : Rule} (hof : site.toRule = .ok rule)
      (hqualifies : rule.Qualifies url) :
      site.toRule.toOption.filter (fun rule => rule.Qualifies url) = some rule := by
    simp [hof, Except.toOption, hqualifies]
  rw [rules, matchRule_rulesOf]
  cases hfirst : firstRuleOf s.sites url with
  | none =>
    refine Set.eq_empty_iff_forall_notMem.2 fun i hi => ?_
    obtain ⟨site, rule, hsite, hof, hqualifies⟩ := mem_placesFor_iff.1 hi
    have hnone := List.findSome?_eq_none_iff.1 hfirst site (List.mem_of_getElem? hsite)
    cases (hkept hof hqualifies).symm.trans hnone
  | some rule =>
    obtain ⟨before, site, after, hsites, hsite, hbefore⟩ := List.findSome?_eq_some_iff.1 hfirst
    obtain ⟨hof, hqualifies⟩ := Option.filter_eq_some_iff.1 hsite
    rw [StoredSite.toOption_toRule_eq_some_iff] at hof
    have hplace : s.sites[before.length]? = some site := by
      rw [hsites, List.getElem?_append_right (Nat.le_refl _), Nat.sub_self]
      rfl
    refine ⟨before.length, ⟨mem_placesFor_iff.2 ⟨site, rule, hplace, hof, by simpa using hqualifies⟩,
      fun j hj => ?_⟩, ruleAt?_eq_some_iff.2 ⟨site, hplace, hof⟩⟩
    -- what stands before this site has no rule for the address
    by_contra hlt
    obtain ⟨other, rule', hother, hof', hqualifies'⟩ := mem_placesFor_iff.1 hj
    rw [hsites, List.getElem?_append_left (Nat.lt_of_not_le hlt)] at hother
    have hnone := hbefore other (List.mem_of_getElem? hother)
    cases (hkept hof' hqualifies').symm.trans hnone

namespace IsFirstAt

variable {places : Set Nat} {answer other : Option Rule}

/-- There is one answer for given places. -/
theorem unique (h : s.IsFirstAt places answer) (hother : s.IsFirstAt places other) :
    answer = other := by
  cases answer with
  | none =>
    cases other with
    | none => rfl
    | some rule =>
      obtain ⟨i, hi, -⟩ := hother
      cases h.subset hi.1
  | some rule =>
    obtain ⟨i, hi, hrule⟩ := h
    cases other with
    | none => cases hother.subset hi.1
    | some rule' =>
      obtain ⟨j, hj, hrule'⟩ := hother
      rw [hi.unique hj, hrule'] at hrule
      exact hrule.symm

/-- The answer is the same where all places have the same rules. -/
theorem congr (hrules : ∀ i ∈ places, t.ruleAt? i = s.ruleAt? i) (h : s.IsFirstAt places answer) :
    t.IsFirstAt places answer := by
  cases answer with
  | none => exact h
  | some rule =>
    obtain ⟨i, hi, hrule⟩ := h
    exact ⟨i, hi, (hrules i hi.1).trans hrule⟩

end IsFirstAt

/-! ## One site switched -/

section Switched

variable (hset : s.setEnabled i enabled = .ok t)

include hset

/-- Every other place keeps its site. -/
theorem getElem?_switched_of_ne (h : j ≠ i) : t.sites[j]? = s.sites[j]? := by
  obtain ⟨site, -, rfl⟩ := setEnabled_eq_ok_iff.1 hset
  exact List.getElem?_set_ne h.symm

theorem ruleAt?_switched_of_ne (h : j ≠ i) : t.ruleAt? j = s.ruleAt? j := by
  rw [ruleAt?, ruleAt?, getElem?_switched_of_ne hset h]

theorem ruleAt?_switched : t.ruleAt? i = (s.ruleAt? i).map fun rule => { rule with enabled } := by
  obtain ⟨site, hsite, rfl⟩ := setEnabled_eq_ok_iff.1 hset
  obtain ⟨hi, -⟩ := List.getElem?_eq_some_iff.1 hsite
  simp only [ruleAt?, List.getElem?_set_self hi, hsite, Option.bind_some,
    StoredSite.toRule_switched]
  cases site.toRule <;> rfl

theorem mem_placesFor_switched : i ∈ t.placesFor url ↔
    enabled ∧ ∃ rule, s.ruleAt? i = some rule ∧ rule.Fits url := by
  simp only [placesFor, Set.mem_ofPred_eq, ruleAt?_switched hset, Option.map_eq_some_iff]
  constructor
  · rintro ⟨_, ⟨rule, hrule, rfl⟩, henabled, hfits⟩
    exact ⟨henabled, rule, hrule, hfits.host, hfits.pattern⟩
  · rintro ⟨henabled, rule, hrule, hfits⟩
    exact ⟨_, ⟨rule, hrule, rfl⟩, henabled, hfits.host, hfits.pattern⟩

theorem mem_placesFor_switched_of_ne (h : j ≠ i) : j ∈ t.placesFor url ↔ j ∈ s.placesFor url := by
  simp only [placesFor, Set.mem_ofPred_eq, ruleAt?_switched_of_ne hset h]

end Switched

/-- Whoever disables a site takes it away from those whose rule is for an address. -/
theorem placesFor_disabled (hset : s.setEnabled i false = .ok t) (url : String) :
    t.placesFor url = s.placesFor url \ {i} := by
  ext j
  by_cases hj : j = i
  · subst hj
    simp [mem_placesFor_switched hset]
  · simp [mem_placesFor_switched_of_ne hset hj, hj]

/-- Whoever enables a site adds it to them if it fits the address. -/
theorem placesFor_enabled (hset : s.setEnabled i true = .ok t) (url : String) :
    t.placesFor url =
      s.placesFor url ∪ { j | j = i ∧ ∃ rule, s.ruleAt? i = some rule ∧ rule.Fits url } := by
  ext j
  by_cases hj : j = i
  · subst hj
    have hfits : j ∈ s.placesFor url → ∃ rule, s.ruleAt? j = some rule ∧ rule.Fits url := by
      rintro ⟨rule, hrule, -, hfits⟩
      exact ⟨rule, hrule, hfits⟩
    simpa [mem_placesFor_switched hset] using hfits
  · simp [mem_placesFor_switched_of_ne hset hj, hj]

/-- A site whose rule is for an address is enabled, so it keeps its rule if it is enabled. -/
theorem ruleAt?_enabled_of_mem (hset : s.setEnabled i true = .ok t) (hj : j ∈ s.placesFor url) :
    t.ruleAt? j = s.ruleAt? j := by
  by_cases hne : j = i
  · subst hne
    obtain ⟨rule, hrule, henabled, -⟩ := hj
    rw [ruleAt?_switched hset, hrule, Option.map_some, ← henabled]
  · exact ruleAt?_switched_of_ne hset hne

/-! ## The rule for an address -/

/-- An address keeps its rule if its place stays the first one. -/
theorem matchRule_eq_of_isLeast (hnone : s.placesFor url = ∅ → t.placesFor url = ∅)
    (hsome : ∀ j, IsLeast (s.placesFor url) j →
      IsLeast (t.placesFor url) j ∧ t.ruleAt? j = s.ruleAt? j) :
    matchRule t.rules url = matchRule s.rules url := by
  have hbefore := s.isFirstAt_matchRule url
  apply (t.isFirstAt_matchRule url).unique
  cases hmatch : matchRule s.rules url with
  | none =>
    rw [hmatch] at hbefore
    exact hnone hbefore
  | some rule =>
    rw [hmatch] at hbefore
    obtain ⟨j, hj, hrule⟩ := hbefore
    obtain ⟨hfirst, hsame⟩ := hsome j hj
    exact ⟨j, hfirst, hsame.trans hrule⟩

/-- To disable a site changes the rule for an address only if the rule was that of the site. -/
theorem isLeast_of_disabled (hset : s.setEnabled i false = .ok t)
    (h : matchRule t.rules url ≠ matchRule s.rules url) : IsLeast (s.placesFor url) i := by
  by_contra hnot
  apply h
  refine matchRule_eq_of_isLeast (fun hnone => ?_) fun j hj => ?_
  · rw [placesFor_disabled hset, hnone, Set.empty_sdiff]
  · have hne : j ≠ i := fun heq => hnot (heq ▸ hj)
    rw [placesFor_disabled hset]
    exact ⟨⟨⟨hj.1, hne⟩, fun k hk => hj.2 hk.1⟩, ruleAt?_switched_of_ne hset hne⟩

/-- To enable a site changes the rule for an address only if the site fits the address and comes
before the one whose rule it was. -/
theorem fits_and_lt_of_enabled (hset : s.setEnabled i true = .ok t)
    (h : matchRule t.rules url ≠ matchRule s.rules url) :
    (∃ rule, s.ruleAt? i = some rule ∧ rule.Fits url) ∧
      ∀ j, IsLeast (s.placesFor url) j → i < j := by
  constructor
  · by_contra hfits
    have hplaces : t.placesFor url = s.placesFor url := by
      rw [placesFor_enabled hset]
      simp [hfits]
    apply h
    exact matchRule_eq_of_isLeast (fun hnone => hplaces.trans hnone) fun j hj =>
      ⟨hplaces ▸ hj, ruleAt?_enabled_of_mem hset hj.1⟩
  · intro j hj
    by_contra hle
    apply h
    refine matchRule_eq_of_isLeast (fun hnone => ?_) fun k hk => ?_
    · exact absurd hj.1 (hnone ▸ Set.notMem_empty j)
    · obtain rfl := hk.unique hj
      rw [placesFor_enabled hset]
      refine ⟨⟨.inl hj.1, ?_⟩, ruleAt?_enabled_of_mem hset hj.1⟩
      rintro m (hm | ⟨rfl, -⟩)
      · exact hj.2 hm
      · exact Nat.le_of_not_lt hle

/-- A site that is not there cannot be switched, and nothing is changed then. Switching one that is
there changes its flag only. The rule for an address is afterwards that of the first other site
whose rule was for it, or that of the first among these sites together with the one that is enabled,
if it fits the address. So it changes only if it was the rule of the site that is disabled, or if
the site that is enabled fits the address and stands before the one whose rule it was, if there was
one. -/
theorem setEnabled_effect (s : Settings) (i : Nat) (enabled : Bool) (url : String) :
    (s.sites.length ≤ i →
      s.setEnabled i enabled = .error (.indexOutOfRange i s.sites.length) ∧
      ∀ (c : Configuration) (w : Workplace), c.settings = s →
        c.setRule i enabled w = .error (.rule (.indexOutOfRange i s.sites.length)) w) ∧
    ∀ site, s.sites[i]? = some site → ∃ t, s.setEnabled i enabled = .ok t ∧
      t.sites.length = s.sites.length ∧
      t.sites[i]? = some { site with enabled := some enabled } ∧
      (∀ j, j ≠ i → t.sites[j]? = s.sites[j]?) ∧
      t = { s with sites := t.sites } ∧
      match enabled with
      | false =>
        s.IsFirstAt (s.placesFor url \ {i}) (matchRule t.rules url) ∧
        (matchRule t.rules url ≠ matchRule s.rules url → IsLeast (s.placesFor url) i)
      | true =>
        t.IsFirstAt
          (s.placesFor url ∪ { j | j = i ∧ ∃ rule, s.ruleAt? i = some rule ∧ rule.Fits url })
          (matchRule t.rules url) ∧
        (matchRule t.rules url ≠ matchRule s.rules url →
          (∃ rule, s.ruleAt? i = some rule ∧ rule.Fits url) ∧
            ∀ j, IsLeast (s.placesFor url) j → i < j) := by
  constructor
  · intro hlength
    have hset : s.setEnabled i enabled = .error (.indexOutOfRange i s.sites.length) := by
      simp [setEnabled, hlength]
    refine ⟨hset, ?_⟩
    rintro c w rfl
    exact Configuration.setRule_of_error hset w
  · intro site hsite
    obtain ⟨hi, -⟩ := List.getElem?_eq_some_iff.1 hsite
    let t : Settings := { s with sites := s.sites.set i { site with enabled := some enabled } }
    have hset : s.setEnabled i enabled = .ok t := setEnabled_eq_ok_iff.2 ⟨site, hsite, rfl⟩
    refine ⟨t, hset, List.length_set, List.getElem?_set_self hi,
      fun j hj => getElem?_switched_of_ne hset hj, rfl, ?_⟩
    cases enabled with
    | false =>
      refine ⟨?_, isLeast_of_disabled hset⟩
      rw [← placesFor_disabled hset]
      refine (isFirstAt_matchRule _ url).congr fun j hj => ?_
      rw [placesFor_disabled hset] at hj
      exact (ruleAt?_switched_of_ne hset hj.2).symm
    | true =>
      refine ⟨?_, fits_and_lt_of_enabled hset⟩
      rw [← placesFor_enabled hset]
      exact isFirstAt_matchRule _ url

/-- A site for the pages of a host, with the title at the given expression. -/
def siteAt (host expression : String) (enabled : Bool) : StoredSite where
  name := host
  host := host
  nameExtractionXpath := some expression
  injectionXpath := "//h1"
  enabled := some enabled

/-- A record that describes no rule comes first, and a site that is switched off stands before one
for the same pages. Once it is switched on, the rule is its own. -/
theorem setEnabled_effect_shadowing :
    let s : Settings := { sites := [{}, siteAt "a.org" "//h2" false, siteAt "a.org" "//h3" true] }
    let url := "https://a.org/shows/1"
    s.setEnabled 3 true = .error (.indexOutOfRange 3 3) ∧
      ∃ t, s.setEnabled 1 true = .ok t ∧ matchRule t.rules url ≠ matchRule s.rules url ∧
        (∃ rule, s.ruleAt? 1 = some rule ∧ rule.Fits url) ∧
        ∀ j, IsLeast (s.placesFor url) j → 1 < j := by
  intro s url
  obtain ⟨houtside, -⟩ := setEnabled_effect s 3 true url
  obtain ⟨-, hinside⟩ := setEnabled_effect s 1 true url
  obtain ⟨t, hset, -, -, -, -, -, hchange⟩ := hinside (siteAt "a.org" "//h2" false) rfl
  have hchanged : matchRule t.rules url ≠ matchRule s.rules url := by
    cases hset
    decide
  exact ⟨(houtside (Nat.le_refl 3)).1, t, hset, hchanged, hchange hchanged⟩

end Settings

end ShowScout
