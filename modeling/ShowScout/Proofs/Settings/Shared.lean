import ShowScout.Proofs.Settings.Copies
import ShowScout.Proofs.Settings.Merge
import ShowScout.Settings.Share

/-!
# Importing shared rules

A shared document holds sites and nothing else, so an import of it leaves the general fields alone.
The sites that are stored stay at their places, with their names and hosts. Their flags are not in
the document either; but a site that is overwritten loses its own, and so is enabled again.
-/

namespace ShowScout

/-! ## What is shared -/

section Sharing

variable {sites : List StoredSite} {names : List String} {text : String} {shared : Settings}

/-- The document to share is the one of settings that have the sites and nothing else. -/
theorem eq_toPrettyJson_of_shareDocument (h : shareDocument sites names = .ok text) :
    text = ({ sites := selectedSites sites names } : Settings).toPrettyJson := by
  unfold shareDocument at h
  split at h
  · cases h
  · exact (Except.ok.inj h).symm

/-- What can be read of the text of each site makes the whole document readable. -/
theorem ofJson_of_shareDocument (h : shareDocument sites names = .ok text)
    (hreadable : ∀ site ∈ sites, site.Readable (Json.levelLimit - 3))
    (hwhole : ∀ site ∈ sites, ∀ n ∈ Json.numbersOfMembers site.extra, n.isWhole) :
    Settings.ofJson text = .ok { sites := selectedSites sites names } := by
  rw [eq_toPrettyJson_of_shareDocument h]
  apply Settings.ofJson_toPrettyJson
  · refine ⟨.nil _ _, fun copy hcopy => ?_⟩
    obtain ⟨site, hsite, rfl⟩ := List.mem_map.1 hcopy
    exact hreadable site (List.mem_filter.1 hsite).1
  · intro n hn
    obtain ⟨copy, hcopy, hn⟩ := List.mem_flatMap.1 hn
    obtain ⟨site, hsite, rfl⟩ := List.mem_map.1 hcopy
    exact hwhole site (List.mem_filter.1 hsite).1 n hn

/-- A shared document is read as a copy of the selected sites, without general fields. -/
theorem copies_of_shareDocument (h : shareDocument sites names = .ok text)
    (hread : Settings.ofJson text = .ok shared) :
    ∃ copies extra, shared = { sites := copies, extra } ∧
      List.Forall₂ StoredSite.CopiedAs (selectedSites sites names) copies := by
  rw [eq_toPrettyJson_of_shareDocument h] at hread
  have hcopied := Settings.copiedAs_of_ofJson (List.forall_mem_nil _) hread
  obtain ⟨extra, heq⟩ := hcopied.fields
  exact ⟨shared.sites, extra, heq, hcopied.sites⟩

/-- A flag that a site does not have is in no copy of it, unless it stands among the unknown
keys. -/
theorem enabled_eq_none_of_copiedAs {copies : List StoredSite}
    (h : List.Forall₂ StoredSite.CopiedAs sites copies)
    (hflags : ∀ site ∈ sites, site.enabled = none ∧ ∀ m ∈ site.extra, m.1 ≠ "enabled") :
    ∀ copy ∈ copies, copy.enabled = none := by
  induction h with
  | nil => exact List.forall_mem_nil _
  | cons hcopy _ ih =>
    obtain ⟨⟨hflag, hkeys⟩, hrest⟩ := List.forall_mem_cons.1 hflags
    exact List.forall_mem_cons.2 ⟨(hcopy.enabled hkeys).trans hflag, ih hrest⟩

/-- Sites are selected by their names. -/
theorem identities_selected_congr {copies : List StoredSite}
    (h : identities copies = identities sites) (o : MergeOptions) :
    identities (o.selected copies) = identities (o.selected sites) := by
  unfold MergeOptions.selected
  split
  · rename_i chosen _
    have hfilter (l : List StoredSite) : identities (l.filter (·.name ∈ chosen)) =
        (identities l).filter (·.1 ∈ chosen) := by
      rw [identities, identities, List.filter_map]
      rfl
    rw [hfilter, hfilter, h]
  · exact h

end Sharing

/-! ## What becomes of a stored site -/

section Sites

variable {sites : List StoredSite} {site : StoredSite}

/-- A stored site stays at its place. If the import overwrites and the site is the first of its name
and host, it becomes the last one imported. -/
theorem Settings.getElem?_merge {r : Settings} {i : Nat} (h : r.sites[i]? = some site)
    (imported : Settings) (o : MergeOptions) :
    (r.merge imported o).1.sites[i]? =
      some (if o.duplicates = .overwrite ∧ (identities r.sites).idxOf site.identity = i then
        (lastOf (o.selected imported.sites) site.identity).getD site else site) := by
  obtain ⟨hi, -⟩ := List.getElem?_eq_some_iff.1 h
  -- new sites are put behind the stored ones, so the place is one of these in either case
  rw [merge_eq]
  cases hpolicy : o.duplicates with
  | skip =>
    simp only [foldl_mergeSite_skip, List.getElem?_append_left hi, h]
    simp
  | overwrite =>
    simp only [foldl_mergeSite_overwrite]
    rw [List.getElem?_append_left (by simpa [renewed] using hi)]
    simp [renewed, h]

theorem MergeOptions.mem_of_mem_selected (o : MergeOptions) (h : site ∈ o.selected sites) :
    site ∈ sites := by
  rw [← o.filter_selects] at h
  exact (List.mem_filter.1 h).1

theorem Settings.identity_getElem?_merge {r imported : Settings} {o : MergeOptions} {i : Nat}
    {site' : StoredSite} (h : r.sites[i]? = some site)
    (hsite' : (r.merge imported o).1.sites[i]? = some site') : site'.identity = site.identity := by
  rw [getElem?_merge h imported o, Option.some.injEq] at hsite'
  subst hsite'
  split
  · cases hlast : lastOf (o.selected imported.sites) site.identity with
    | none => rfl
    | some found => exact (lastOf_eq_some hlast).2
  · rfl

/-- If the imported sites have no flags, a stored site changes its own only by being enabled, and
does so if it is overwritten. -/
theorem Settings.isEnabled_getElem?_merge {r imported : Settings} {o : MergeOptions} {i : Nat}
    {site' : StoredSite} (h : r.sites[i]? = some site)
    (hsite' : (r.merge imported o).1.sites[i]? = some site')
    (hflags : ∀ other ∈ imported.sites, other.enabled = none) :
    site'.isEnabled ≠ site.isEnabled ↔
      site.isEnabled = false ∧ o.duplicates = .overwrite ∧
        (identities r.sites).idxOf site.identity = i ∧
        site.identity ∈ identities (o.selected imported.sites) := by
  rw [getElem?_merge h imported o, Option.some.injEq] at hsite'
  subst hsite'
  by_cases hfirst : o.duplicates = .overwrite ∧ (identities r.sites).idxOf site.identity = i
  · rw [if_pos hfirst]
    cases hlast : lastOf (o.selected imported.sites) site.identity with
    | none => simp [lastOf_eq_none_iff.1 hlast]
    | some found =>
      obtain ⟨hmem, hidentity⟩ := lastOf_eq_some hlast
      have hfound : found.isEnabled = true := by
        rw [StoredSite.isEnabled, hflags found (o.mem_of_mem_selected hmem)]
        rfl
      have hselected : site.identity ∈ identities (o.selected imported.sites) :=
        hidentity ▸ List.mem_map_of_mem hmem
      simp [hfound, hfirst, hselected]
  · rw [if_neg hfirst]
    simp only [ne_eq, not_true_eq_false, false_iff]
    exact fun h => hfirst ⟨h.2.1, h.2.2.1⟩

end Sites

/-! ## Imports -/

/-- A document of rules that are shared can be read as these rules. Whatever it is read as, the
general fields and the unknown keys are left alone where it is imported, and each stored site at its
place, with its name and host. Who skips keeps all of it. Who overwrites keeps the flag of a site
too, unless the site was switched off and is the first of a name and host that is imported: it is
enabled then, as flags are not shared. -/
theorem import_shared {sites : List StoredSite} {names : List String} {text : String}
    (hshare : shareDocument sites names = .ok text) :
    ((∀ site ∈ sites, site.Readable (Json.levelLimit - 3)) →
      (∀ site ∈ sites, ∀ n ∈ Json.numbersOfMembers site.extra, n.isWhole) →
      Settings.ofJson text = .ok { sites := selectedSites sites names }) ∧
    ∀ shared, Settings.ofJson text = .ok shared → ∀ (r : Settings) (o : MergeOptions),
      let merged := (r.merge shared o).1
      merged.internalAddress = r.internalAddress ∧
      merged.externalAddress = r.externalAddress ∧
      merged.apiKey = r.apiKey ∧
      merged.apiLanguages = r.apiLanguages ∧
      merged.extra = r.extra ∧
      ∀ i site, r.sites[i]? = some site → ∃ site', merged.sites[i]? = some site' ∧
        site'.identity = site.identity ∧
        (o.duplicates = .skip → site' = site) ∧
        ((∀ sender ∈ sites, ∀ m ∈ sender.extra, m.1 ≠ "enabled") →
          (site'.isEnabled ≠ site.isEnabled ↔
            site.isEnabled = false ∧ o.duplicates = .overwrite ∧
              (identities r.sites).idxOf site.identity = i ∧
              site.identity ∈ identities (o.selected (selectedSites sites names)))) := by
  refine ⟨ofJson_of_shareDocument hshare, fun shared hread r o => ?_⟩
  obtain ⟨copies, extra, rfl, hcopied⟩ := copies_of_shareDocument hshare hread
  refine ⟨rfl, rfl, rfl, rfl, rfl, fun i site hsite => ?_⟩
  have hsite' := Settings.getElem?_merge hsite { sites := copies, extra } o
  refine ⟨_, hsite', Settings.identity_getElem?_merge hsite hsite', ?_, fun hkeys => ?_⟩
  · intro hskip
    simp [hskip]
  · have hflags : ∀ copy ∈ copies, copy.enabled = none := by
      refine enabled_eq_none_of_copiedAs hcopied fun selected hselected => ?_
      obtain ⟨sender, hsender, rfl⟩ := List.mem_map.1 hselected
      exact ⟨rfl, hkeys sender (List.mem_filter.1 hsender).1⟩
    have hidentities := identities_selected_congr (identities_eq_of_copiedAs hcopied) o
    rw [← hidentities]
    exact Settings.isEnabled_getElem?_merge hsite hsite' hflags

/-- A site whose name is found by the given expression. -/
def StoredSite.tvMaze (expression : String) : StoredSite where
  name := "TV Maze"
  host := "tvmaze.com"
  nameExtractionXpath := some expression
  injectionXpath := "//h1"

/-- Who skips a rule that is switched off keeps it switched off. -/
theorem import_shared_skipped :
    let text := ({ sites := [.tvMaze "//h2"] } : Settings).toPrettyJson
    let off : StoredSite := { StoredSite.tvMaze "//h1" with enabled := some false }
    let r : Settings := { sites := [off], apiKey := some "k" }
    shareDocument [.tvMaze "//h2"] ["TV Maze"] = .ok text ∧
      Settings.ofJson text = .ok { sites := [.tvMaze "//h2"] } ∧
      (r.merge { sites := [.tvMaze "//h2"] } {}).1.apiKey = some "k" ∧
      (r.merge { sites := [.tvMaze "//h2"] } {}).1.sites[0]? = some off := by
  intro text off r
  have hshare : shareDocument [.tvMaze "//h2"] ["TV Maze"] = .ok text := rfl
  obtain ⟨hread, himport⟩ := import_shared hshare
  have hread := hread (List.forall_mem_singleton.2 (.nil _ _)) (by decide)
  obtain ⟨-, -, hkey, -, -, hsites⟩ := himport _ hread r {}
  obtain ⟨site', hsite', -, hskip, -⟩ := hsites 0 off rfl
  exact ⟨hshare, hread, hkey, hsite'.trans (congrArg some (hskip rfl))⟩

/-- A rule that is switched off is switched on by an import that overwrites it. -/
theorem not_import_shared_of_overwrite :
    ¬ ∀ (sites : List StoredSite) (names : List String) (text : String) (shared r : Settings)
        (o : MergeOptions) (i : Nat) (site : StoredSite),
        shareDocument sites names = .ok text → Settings.ofJson text = .ok shared →
        r.sites[i]? = some site →
        ∃ site', (r.merge shared o).1.sites[i]? = some site' ∧
          site'.isEnabled = site.isEnabled := by
  intro h
  have hread : Settings.ofJson ({ sites := [.tvMaze "//h2"] } : Settings).toPrettyJson =
      .ok { sites := [.tvMaze "//h2"] } :=
    Settings.ofJson_toPrettyJson ⟨.nil _ _, List.forall_mem_singleton.2 (.nil _ _)⟩ (by decide)
  let off : StoredSite := { StoredSite.tvMaze "//h1" with enabled := some false }
  obtain ⟨site', hsite', henabled⟩ := h [.tvMaze "//h2"] ["TV Maze"] _ _ { sites := [off] }
    { duplicates := .overwrite } 0 off rfl hread rfl
  cases hsite'
  cases henabled

end ShowScout
