import Mathlib.Data.List.Basic
import ShowScout.Settings.Merge

/-!
# What a merge leaves

The sites after a merge, without the loop: the first site of each name and host keeps its place, and
sites that are new follow in the order in which they were first imported. The policy decides only
which record stands at a place, the first or the last one. So the same merge made again finds all
sites where it would put them.
-/

namespace ShowScout

/-! ## Sites of one name and host -/

/-- What two records of one site have in common. -/
def StoredSite.identity (site : StoredSite) : String × String :=
  (site.name, site.host)

/-- The names and hosts of a list of sites, in order. -/
def identities (sites : List StoredSite) : List (String × String) :=
  sites.map StoredSite.identity

/-- The last site of a name and host. -/
def lastOf (sites : List StoredSite) (identity : String × String) : Option StoredSite :=
  sites.reverse.find? (·.identity = identity)

/-- The first site of each name and host. -/
def firstOfEach (sites : List StoredSite) : List StoredSite :=
  sites.eraseDupsBy (·.identity == ·.identity)

/-- The sites of an import that are not there yet. -/
def newSites (sites imported : List StoredSite) : List StoredSite :=
  imported.filter (·.identity ∉ identities sites)

section Lists

variable {sites imported : List StoredSite} {site : StoredSite} {identity : String × String}

theorem lastOf_cons_of_eq (h : site.identity = identity) :
    lastOf (site :: sites) identity = some ((lastOf sites identity).getD site) := by
  simp only [lastOf, List.reverse_cons, List.find?_append]
  cases sites.reverse.find? (·.identity = identity) <;> simp [h]

theorem lastOf_cons_of_ne (h : site.identity ≠ identity) :
    lastOf (site :: sites) identity = lastOf sites identity := by
  simp [lastOf, List.find?_append, h]

theorem lastOf_eq_some {found : StoredSite} (h : lastOf sites identity = some found) :
    found ∈ sites ∧ found.identity = identity := by
  constructor
  · exact List.mem_reverse.1 (List.mem_of_find?_eq_some h)
  · simpa using List.find?_some h

theorem lastOf_eq_none_iff : lastOf sites identity = none ↔ identity ∉ identities sites := by
  simp [lastOf, identities]

/-- The last site of a name and host has this name and host. -/
theorem identity_getD_lastOf (sites : List StoredSite) (site : StoredSite) :
    ((lastOf sites site.identity).getD site).identity = site.identity := by
  cases h : lastOf sites site.identity with
  | none => rfl
  | some found => exact (lastOf_eq_some h).2

theorem firstOfEach_cons (site : StoredSite) (sites : List StoredSite) :
    firstOfEach (site :: sites) =
      site :: firstOfEach (sites.filter (·.identity ≠ site.identity)) := by
  simp [firstOfEach, List.eraseDupsBy_cons]

theorem firstOfEach_sublist (sites : List StoredSite) : (firstOfEach sites).Sublist sites := by
  match sites with
  | [] => exact .refl _
  | site :: rest =>
    rw [firstOfEach_cons]
    exact ((firstOfEach_sublist _).trans List.filter_sublist).cons_cons site
termination_by sites.length
decreasing_by exact Nat.lt_succ_of_le (List.length_filter_le _ _)

theorem newSites_cons_of_mem (h : site.identity ∈ identities sites) :
    newSites sites (site :: imported) = newSites sites imported := by
  simp [newSites, h]

theorem newSites_cons_of_notMem (h : site.identity ∉ identities sites) :
    newSites sites (site :: imported) = site :: newSites sites imported := by
  simp [newSites, h]

/-- A site that has been added is new no more. -/
theorem newSites_concat (sites imported : List StoredSite) (site : StoredSite) :
    newSites (sites ++ [site]) imported =
      (newSites sites imported).filter (·.identity ≠ site.identity) := by
  rw [newSites, newSites, List.filter_filter]
  congr 1
  funext other
  simp [identities, and_comm]

theorem identity_notMem_of_mem_newSites (h : site ∈ newSites sites imported) :
    site.identity ∉ identities sites := by
  simpa using (List.mem_filter.1 h).2

theorem length_identities (sites : List StoredSite) : (identities sites).length = sites.length :=
  List.length_map _

theorem getElem_identities {i : Nat} (h : i < (identities sites).length) (hi : i < sites.length) :
    (identities sites)[i] = sites[i].identity :=
  List.getElem_map _

/-- Another record of the site at a place. -/
theorem identities_set (h : site.identity ∈ identities sites) :
    identities (sites.set ((identities sites).idxOf site.identity) site) = identities sites := by
  rw [identities, List.map_set]
  conv_rhs => rw [← List.set_getElem_self (List.idxOf_lt_length_of_mem h)]
  rw [List.getElem_idxOf]
  rfl

end Lists

/-! ## One site -/

section Step

variable {policy : DuplicatePolicy} {sites : List StoredSite} {site : StoredSite}
  {report : MergeReport}

theorem findIdx?_sameSite (sites : List StoredSite) (site : StoredSite) :
    sites.findIdx? (·.sameSite site) = (identities sites).findIdx? (· == site.identity) := by
  rw [identities, List.findIdx?_map]
  congr 1

theorem mergeSite_of_notMem (h : site.identity ∉ identities sites) :
    mergeSite policy (sites, report) site =
      (sites ++ [site], { report with added := report.added + 1 }) := by
  have hnone : sites.findIdx? (·.sameSite site) = none := by
    rw [findIdx?_sameSite, List.findIdx?_eq_none_iff]
    intro identity hmem
    exact beq_false_of_ne (ne_of_mem_of_not_mem hmem h)
  simp only [mergeSite, hnone]

theorem findIdx?_of_mem (h : site.identity ∈ identities sites) :
    sites.findIdx? (·.sameSite site) = some ((identities sites).idxOf site.identity) := by
  rw [findIdx?_sameSite, List.findIdx?_eq_some_iff_findIdx_eq]
  exact ⟨List.idxOf_lt_length_of_mem h, rfl⟩

theorem mergeSite_skip_of_mem (h : site.identity ∈ identities sites) :
    mergeSite .skip (sites, report) site =
      (sites, { report with skipped := report.skipped + 1 }) := by
  simp only [mergeSite, findIdx?_of_mem h]

theorem mergeSite_overwrite_of_mem (h : site.identity ∈ identities sites) :
    mergeSite .overwrite (sites, report) site =
      (sites.set ((identities sites).idxOf site.identity) site,
        { report with overwritten := report.overwritten + 1 }) := by
  simp only [mergeSite, findIdx?_of_mem h]

end Step

/-! ## All sites -/

section Loop

variable {sites imported : List StoredSite} {site : StoredSite}

theorem foldl_mergeSite_skip (imported sites : List StoredSite) (report : MergeReport) :
    (imported.foldl (mergeSite .skip) (sites, report)).1 =
      sites ++ firstOfEach (newSites sites imported) := by
  -- a site that has been added is there for the rest of the import
  induction imported generalizing sites report with
  | nil => exact (List.append_nil sites).symm
  | cons site rest ih =>
    rw [List.foldl_cons]
    by_cases h : site.identity ∈ identities sites
    · rw [mergeSite_skip_of_mem h, ih, newSites_cons_of_mem h]
    · rw [mergeSite_of_notMem h, ih, newSites_cons_of_notMem h, newSites_concat, firstOfEach_cons,
        List.append_assoc, List.singleton_append]

/-- The stored sites after an import that overwrites: where a name and host stands first, its last
imported record. -/
def renewed (imported sites : List StoredSite) : List StoredSite :=
  sites.mapIdx fun i site =>
    if (identities sites).idxOf site.identity = i then (lastOf imported site.identity).getD site
    else site

/-- The sites that an import adds if it overwrites: those that are new, in their last record. -/
def lastNewSites (imported sites : List StoredSite) : List StoredSite :=
  (firstOfEach (newSites sites imported)).map fun site =>
    (lastOf imported site.identity).getD site

theorem renewed_nil (sites : List StoredSite) : renewed [] sites = sites :=
  List.ext_getElem (by simp [renewed]) fun i _ _ => by simp [renewed, lastOf]

theorem renewed_set (h : site.identity ∈ identities sites) :
    renewed imported (sites.set ((identities sites).idxOf site.identity) site) =
      renewed (site :: imported) sites := by
  refine List.ext_getElem (by simp [renewed]) fun j hj _ => ?_
  have hj : j < sites.length := by simpa [renewed] using hj
  simp only [renewed, List.getElem_mapIdx, identities_set h, List.getElem_set]
  split
  · rename_i hplace
    subst hplace
    have hsame : sites[(identities sites).idxOf site.identity].identity = site.identity := by
      rw [← getElem_identities (List.idxOf_lt_length_of_mem h), List.getElem_idxOf]
    simp [hsame, lastOf_cons_of_eq]
  · rename_i hplace
    split
    · rename_i hfirst
      -- the first place of this name and host is another one, so it is another name or host
      have hne : site.identity ≠ sites[j].identity :=
        fun heq => hplace (heq ▸ hfirst)
      rw [lastOf_cons_of_ne hne]
    · rfl

theorem renewed_concat (h : site.identity ∉ identities sites) :
    renewed imported (sites ++ [site]) =
      renewed (site :: imported) sites ++ [(lastOf imported site.identity).getD site] := by
  have hids : identities (sites ++ [site]) = identities sites ++ [site.identity] :=
    List.map_append
  rw [renewed, List.mapIdx_concat, hids]
  congr 1
  · refine List.ext_getElem (by simp [renewed]) fun j hj _ => ?_
    have hj' : j < sites.length := by simpa using hj
    have hmem : sites[j].identity ∈ identities sites :=
      List.mem_map_of_mem (List.getElem_mem hj')
    have hne : site.identity ≠ sites[j].identity :=
      fun heq => h (heq ▸ hmem)
    simp [renewed, List.idxOf_append_of_mem hmem, lastOf_cons_of_ne hne]
  · simp [List.idxOf_append_of_notMem h, length_identities]

theorem lastNewSites_cons_of_mem (h : site.identity ∈ identities sites) :
    lastNewSites (site :: imported) sites = lastNewSites imported sites := by
  rw [lastNewSites, newSites_cons_of_mem h]
  refine List.map_congr_left fun other hother => ?_
  have hnew : other.identity ∉ identities sites :=
    identity_notMem_of_mem_newSites ((firstOfEach_sublist _).subset hother)
  rw [lastOf_cons_of_ne (ne_of_mem_of_not_mem h hnew)]

theorem lastNewSites_cons_of_notMem (h : site.identity ∉ identities sites) :
    lastNewSites (site :: imported) sites =
      (lastOf imported site.identity).getD site :: lastNewSites imported (sites ++ [site]) := by
  rw [lastNewSites, newSites_cons_of_notMem h, firstOfEach_cons, ← newSites_concat, List.map_cons,
    lastOf_cons_of_eq rfl, Option.getD_some]
  congr 1
  refine List.map_congr_left fun other hother => ?_
  have hnew : other.identity ∉ identities (sites ++ [site]) :=
    identity_notMem_of_mem_newSites ((firstOfEach_sublist _).subset hother)
  have hne : site.identity ≠ other.identity := by
    rintro heq
    exact hnew (by simp [identities, heq])
  rw [lastOf_cons_of_ne hne]

theorem lastNewSites_set (h : site.identity ∈ identities sites) :
    lastNewSites imported (sites.set ((identities sites).idxOf site.identity) site) =
      lastNewSites imported sites := by
  rw [lastNewSites, lastNewSites, newSites, newSites, identities_set h]

theorem foldl_mergeSite_overwrite (imported sites : List StoredSite) (report : MergeReport) :
    (imported.foldl (mergeSite .overwrite) (sites, report)).1 =
      renewed imported sites ++ lastNewSites imported sites := by
  -- The rest of the import meets the site of this step where it has been put. If the rest has
  -- another record of it, that one counts, so what was put here need not be told apart.
  induction imported generalizing sites report with
  | nil =>
    rw [renewed_nil]
    exact (List.append_nil sites).symm
  | cons site rest ih =>
    rw [List.foldl_cons]
    by_cases h : site.identity ∈ identities sites
    · rw [mergeSite_overwrite_of_mem h, ih, renewed_set h, lastNewSites_set h,
        lastNewSites_cons_of_mem h]
    · rw [mergeSite_of_notMem h, ih, renewed_concat h, lastNewSites_cons_of_notMem h,
        List.append_assoc, List.singleton_append]

/-- Every imported site is added, overwrites another or is skipped, and the policy says which of the
last two. -/
theorem foldl_mergeSite_report (policy : DuplicatePolicy) (imported sites : List StoredSite)
    (report : MergeReport) :
    let (merged, after) := imported.foldl (mergeSite policy) (sites, report)
    merged.length + report.added = sites.length + after.added ∧
    after.added + after.overwritten + after.skipped =
      report.added + report.overwritten + report.skipped + imported.length ∧
    match policy with
    | .skip => after.overwritten = report.overwritten
    | .overwrite => after.skipped = report.skipped := by
  induction imported generalizing sites report with
  | nil => cases policy <;> simp
  | cons site rest ih =>
    simp only [List.foldl_cons, List.length_cons]
    by_cases h : site.identity ∈ identities sites
    · cases policy with
      | skip =>
        rw [mergeSite_skip_of_mem h]
        have hrest := ih sites { report with skipped := report.skipped + 1 }
        dsimp only at hrest ⊢
        exact ⟨hrest.1, by omega, hrest.2.2⟩
      | overwrite =>
        rw [mergeSite_overwrite_of_mem h]
        have hrest := ih (sites.set ((identities sites).idxOf site.identity) site)
          { report with overwritten := report.overwritten + 1 }
        rw [List.length_set] at hrest
        dsimp only at hrest ⊢
        exact ⟨hrest.1, by omega, hrest.2.2⟩
    · rw [mergeSite_of_notMem h]
      have hrest := ih (sites ++ [site]) { report with added := report.added + 1 }
      rw [List.length_append, List.length_singleton] at hrest
      dsimp only at hrest ⊢
      exact ⟨by omega, by omega, hrest.2.2⟩

end Loop

/-! ## Names and hosts after an import -/

section Identities

variable {policy : DuplicatePolicy} {sites imported : List StoredSite} {site : StoredSite}
  {report : MergeReport} {identity : String × String}

theorem mem_identities_mergeSite :
    identity ∈ identities (mergeSite policy (sites, report) site).1 ↔
      identity ∈ identities sites ∨ identity = site.identity := by
  by_cases h : site.identity ∈ identities sites
  · have hsame : identity = site.identity → identity ∈ identities sites := fun heq => heq ▸ h
    cases policy with
    | skip => simpa [mergeSite_skip_of_mem h] using hsame
    | overwrite => simpa [mergeSite_overwrite_of_mem h, identities_set h] using hsame
  · simp [mergeSite_of_notMem h, identities]

/-- After an import every imported name and host is there, and no other one has come or gone. -/
theorem mem_identities_foldl_mergeSite :
    identity ∈ identities (imported.foldl (mergeSite policy) (sites, report)).1 ↔
      identity ∈ identities sites ∨ identity ∈ identities imported := by
  induction imported generalizing sites report with
  | nil => simp [identities]
  | cons site rest ih =>
    have hcons : identities (site :: rest) = site.identity :: identities rest := rfl
    rw [List.foldl_cons, ih, mem_identities_mergeSite, or_assoc, hcons, List.mem_cons]

/-- No name and host comes to stand twice. -/
theorem nodup_identities_mergeSite (h : (identities sites).Nodup) :
    (identities (mergeSite policy (sites, report) site).1).Nodup := by
  by_cases hmem : site.identity ∈ identities sites
  · cases policy with
    | skip => rwa [mergeSite_skip_of_mem hmem]
    | overwrite => rwa [mergeSite_overwrite_of_mem hmem, identities_set hmem]
  · rw [mergeSite_of_notMem hmem, identities, List.map_append, List.nodup_append]
    refine ⟨h, List.pairwise_singleton _ _, fun identity hidentity other hother => ?_⟩
    rw [List.mem_singleton.1 hother]
    exact ne_of_mem_of_not_mem hidentity hmem

theorem nodup_identities_foldl_mergeSite (h : (identities sites).Nodup) :
    (identities (imported.foldl (mergeSite policy) (sites, report)).1).Nodup := by
  induction imported generalizing sites report with
  | nil => exact h
  | cons site rest ih =>
    rw [List.foldl_cons]
    exact ih (nodup_identities_mergeSite h)

end Identities

/-! ## The same import again -/

section Again

variable {imported sites : List StoredSite}

/-- Nothing is new any more. -/
theorem newSites_foldl_mergeSite (policy : DuplicatePolicy) (imported sites : List StoredSite)
    (report : MergeReport) :
    newSites (imported.foldl (mergeSite policy) (sites, report)).1 imported = [] := by
  refine List.filter_eq_nil_iff.2 fun site hsite => ?_
  have hmem : site.identity ∈ identities imported := List.mem_map_of_mem hsite
  simpa using mem_identities_foldl_mergeSite.2 (.inr hmem)

theorem identities_renewed (imported sites : List StoredSite) :
    identities (renewed imported sites) = identities sites := by
  refine List.ext_getElem (by simp [length_identities, renewed]) fun i h h' => ?_
  have hi : i < sites.length := by simpa [length_identities] using h'
  rw [getElem_identities h (by simpa [renewed] using hi), getElem_identities h' hi]
  simp only [renewed, List.getElem_mapIdx]
  split
  · exact identity_getD_lastOf imported _
  · rfl

/-- Sites are left alone if each of them is its own last record where its name and host comes
first. -/
theorem renewed_eq_self
    (h : ∀ i (hi : i < sites.length), (identities sites).idxOf sites[i].identity = i →
      (lastOf imported sites[i].identity).getD sites[i] = sites[i]) :
    renewed imported sites = sites := by
  refine List.ext_getElem (by simp [renewed]) fun i _ hi => ?_
  simp only [renewed, List.getElem_mapIdx]
  split
  · exact h i hi ‹_›
  · rfl

theorem getD_lastOf_getD (imported : List StoredSite) (site : StoredSite) :
    let last := (lastOf imported site.identity).getD site
    (lastOf imported last.identity).getD last = last := by
  intro last
  have hidentity : last.identity = site.identity := identity_getD_lastOf imported site
  rw [hidentity]
  simp only [last]
  cases lastOf imported site.identity <;> rfl

/-- After an import that overwrites, the last record stands wherever a name and host comes first;
so it may pass through other records again, but ends where it was. -/
theorem renewed_merged (imported sites : List StoredSite) :
    renewed imported (renewed imported sites ++ lastNewSites imported sites) =
      renewed imported sites ++ lastNewSites imported sites := by
  refine renewed_eq_self fun i hi hfirst => ?_
  suffices hlast : ∃ site, (renewed imported sites ++ lastNewSites imported sites)[i] =
      (lastOf imported site.identity).getD site by
    obtain ⟨site, hsite⟩ := hlast
    rw [hsite]
    exact getD_lastOf_getD imported site
  rcases Nat.lt_or_ge i (renewed imported sites).length with hstored | hnew
  · have hi : i < sites.length := by simpa [renewed] using hstored
    rw [List.getElem_append_left hstored] at hfirst ⊢
    -- the place is the first one among the stored sites too, so it has been renewed
    have hidentity : (renewed imported sites)[i].identity = sites[i].identity := by
      have hrenewed := identities_renewed imported sites
      rw [← getElem_identities (by simpa [hrenewed, length_identities] using hi) hstored,
        ← getElem_identities (by simpa [length_identities] using hi) hi]
      simp only [hrenewed]
    have hmem : sites[i].identity ∈ identities sites := List.mem_map_of_mem (List.getElem_mem hi)
    rw [hidentity, identities, List.map_append, ← identities, identities_renewed,
      List.idxOf_append_of_mem hmem] at hfirst
    exact ⟨sites[i], by simp [renewed, hfirst]⟩
  · have hmem : (renewed imported sites ++ lastNewSites imported sites)[i] ∈
        lastNewSites imported sites := by
      rw [List.getElem_append_right hnew]
      exact List.getElem_mem _
    obtain ⟨site, -, hsite⟩ := List.mem_map.1 hmem
    exact ⟨site, hsite.symm⟩

/-- The same import changes no site when it is repeated. -/
theorem foldl_mergeSite_foldl_mergeSite (policy : DuplicatePolicy)
    (imported sites : List StoredSite) (report report' : MergeReport) :
    let merged := (imported.foldl (mergeSite policy) (sites, report)).1
    (imported.foldl (mergeSite policy) (merged, report')).1 = merged := by
  intro merged
  have hnew : newSites merged imported = [] := newSites_foldl_mergeSite policy imported sites report
  cases policy with
  | skip => rw [foldl_mergeSite_skip, hnew, firstOfEach, List.eraseDupsBy_nil, List.append_nil]
  | overwrite =>
    have hmerged : merged = renewed imported sites ++ lastNewSites imported sites :=
      foldl_mergeSite_overwrite imported sites report
    rw [foldl_mergeSite_overwrite, lastNewSites, hnew, firstOfEach, List.eraseDupsBy_nil,
      List.map_nil, List.append_nil, hmerged, renewed_merged]

end Again

/-! ## Documents -/

/-- The sites that are selected for an import. -/
def MergeOptions.selected (o : MergeOptions) (sites : List StoredSite) : List StoredSite :=
  match o.only with
  | some names => sites.filter (·.name ∈ names)
  | none => sites

theorem MergeOptions.filter_selects (o : MergeOptions) (sites : List StoredSite) :
    sites.filter o.selects = o.selected sites := by
  unfold selected
  split
  · rename_i names honly
    refine List.filter_congr fun site _ => ?_
    simp [selects, honly]
  · rename_i honly
    refine List.filter_eq_self.2 fun site _ => ?_
    simp [selects, honly]

theorem Settings.merge_eq (s imported : Settings) (o : MergeOptions) :
    let (sites, report) := (o.selected imported.sites).foldl (mergeSite o.duplicates) (s.sites, {})
    s.merge imported o =
      ({ sites
         internalAddress := imported.internalAddress.or s.internalAddress
         externalAddress := imported.externalAddress.or s.externalAddress
         apiKey := imported.apiKey.or s.apiKey
         apiLanguages := imported.apiLanguages.or s.apiLanguages
         extra := s.extra }, report) := by
  rw [← o.filter_selects]
  simp [merge, Option.orElse_eq_orElse]

/-- What a merge makes of settings. A general field is that of the import if it has one, and unknown
keys are left alone. Sites that are new are added, each name and host once and in the order of the
import; a name and host that is there already keeps its first place. Who skips keeps the first
record of a name and host, who overwrites has the last. The report counts every selected site
once. -/
theorem Settings.merge_result (s imported : Settings) (o : MergeOptions) :
    let selected := o.selected imported.sites
    let (merged, report) := s.merge imported o
    merged.internalAddress = imported.internalAddress.or s.internalAddress ∧
    merged.externalAddress = imported.externalAddress.or s.externalAddress ∧
    merged.apiKey = imported.apiKey.or s.apiKey ∧
    merged.apiLanguages = imported.apiLanguages.or s.apiLanguages ∧
    merged.extra = s.extra ∧
    merged.sites.length = s.sites.length + report.added ∧
    report.added + report.overwritten + report.skipped = selected.length ∧
    match o.duplicates with
    | .skip =>
      merged.sites = s.sites ++ firstOfEach (newSites s.sites selected) ∧ report.overwritten = 0
    | .overwrite =>
      merged.sites =
        (s.sites.mapIdx fun i site =>
          if (identities s.sites).idxOf site.identity = i then
            (lastOf selected site.identity).getD site
          else site) ++
        (firstOfEach (newSites s.sites selected)).map
          (fun site => (lastOf selected site.identity).getD site) ∧
      report.skipped = 0 := by
  have hreport := foldl_mergeSite_report o.duplicates (o.selected imported.sites) s.sites {}
  rw [merge_eq]
  refine ⟨rfl, rfl, rfl, rfl, rfl, hreport.1, by simpa using hreport.2.1, ?_⟩
  cases hpolicy : o.duplicates with
  | skip =>
    rw [hpolicy] at hreport
    exact ⟨foldl_mergeSite_skip _ _ _, hreport.2.2⟩
  | overwrite =>
    rw [hpolicy] at hreport
    exact ⟨foldl_mergeSite_overwrite _ _ _, hreport.2.2⟩

/-- The report of a merge in which every site was there already. -/
def MergeReport.allMet (policy : DuplicatePolicy) (count : Nat) : MergeReport :=
  match policy with
  | .skip => { added := 0, overwritten := 0, skipped := count }
  | .overwrite => { added := 0, overwritten := count, skipped := 0 }

theorem foldl_mergeSite_allMet {policy : DuplicatePolicy} {imported sites : List StoredSite}
    (h : (imported.foldl (mergeSite policy) (sites, {})).1.length = sites.length) :
    (imported.foldl (mergeSite policy) (sites, {})).2 = .allMet policy imported.length := by
  have hreport := foldl_mergeSite_report policy imported sites {}
  generalize imported.foldl (mergeSite policy) (sites, {}) = result at h hreport
  obtain ⟨merged, added, overwritten, skipped⟩ := result
  dsimp only at h hreport
  obtain ⟨hlength, hsum, hnone⟩ := hreport
  obtain rfl : added = 0 := by omega
  cases policy with
  | skip =>
    obtain rfl : overwritten = 0 := hnone
    obtain rfl : skipped = imported.length := by omega
    rfl
  | overwrite =>
    obtain rfl : skipped = 0 := hnone
    obtain rfl : overwritten = imported.length := by omega
    rfl

/-- To repeat a merge changes nothing, however often a name and host stands among the stored or the
imported sites. Every selected site meets one that is there. -/
theorem Settings.merge_again (s imported : Settings) (o : MergeOptions) :
    let merged := (s.merge imported o).1
    merged.merge imported o =
      (merged, .allMet o.duplicates (o.selected imported.sites).length) := by
  intro merged
  have hmerged : merged =
      { sites := ((o.selected imported.sites).foldl (mergeSite o.duplicates) (s.sites, {})).1
        internalAddress := imported.internalAddress.or s.internalAddress
        externalAddress := imported.externalAddress.or s.externalAddress
        apiKey := imported.apiKey.or s.apiKey
        apiLanguages := imported.apiLanguages.or s.apiLanguages
        extra := s.extra } :=
    congrArg Prod.fst (s.merge_eq imported o)
  have hsites : ((o.selected imported.sites).foldl (mergeSite o.duplicates) (merged.sites, {})).1 =
      merged.sites := by
    rw [hmerged]
    exact foldl_mergeSite_foldl_mergeSite _ _ _ _ _
  have hreport := foldl_mergeSite_allMet (congrArg List.length hsites)
  -- a general field that the import has is there already
  have hfield {α : Type} (new old : Option α) : new.or (new.or old) = new.or old := by
    cases new <;> rfl
  rw [merge_eq, hsites, hreport, hmerged]
  simp only [hfield]

end ShowScout
