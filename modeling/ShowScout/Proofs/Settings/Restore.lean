import ShowScout.Proofs.Settings.Copies
import ShowScout.Proofs.Settings.Merge
import ShowScout.Proofs.Settings.Reachable

/-!
# Restoring a backup

A backup is the text of the settings, and to restore it is to import that text where nothing is
stored yet. Sites of different names and hosts all come back at their places, and so do the general
fields. What a merge does not bring back are the members of unknown keys of the document itself.
-/

namespace ShowScout

/-! ## Merges that only add -/

/-- Sites that are all new are put behind those that are stored. -/
theorem foldl_mergeSite_of_nodup {policy : DuplicatePolicy} {sites imported : List StoredSite}
    (h : (identities (sites ++ imported)).Nodup) (report : MergeReport) :
    (imported.foldl (mergeSite policy) (sites, report)).1 = sites ++ imported := by
  -- on the sites still to come; the one that is added joins those that are stored
  induction imported generalizing sites report with
  | nil => exact (List.append_nil sites).symm
  | cons site rest ih =>
    have hnew : site.identity ∉ identities sites := by
      rw [identities, List.map_append] at h
      exact fun hmem => List.disjoint_of_nodup_append h hmem (by simp)
    rw [List.append_cons] at h ⊢
    rw [List.foldl_cons, mergeSite_of_notMem hnew]
    exact ih h _

namespace Settings

/-- Settings after an import of others where nothing was stored. -/
def restored (policy : DuplicatePolicy) (imported : Settings) : Settings :=
  (({} : Settings).merge imported { duplicates := policy }).1

/-- All sites are restored if they have different names or hosts, and all general fields, but no
member of an unknown key. -/
theorem restored_eq {imported : Settings} (h : (identities imported.sites).Nodup)
    (policy : DuplicatePolicy) : restored policy imported = { imported with extra := [] } := by
  have hsites := @foldl_mergeSite_of_nodup policy [] imported.sites h {}
  rw [restored, merge_eq]
  simp only [MergeOptions.selected, hsites, List.nil_append, Option.or_none]

/-! ## Backups -/

/-- A backup is read as the settings but for the values of unknown keys, and what it is read as is
restored but for the unknown keys of the document. If the numbers of unknown keys are whole, the
backup is read as the settings themselves, and so they are restored if and only if the document has
no unknown keys. -/
theorem restore_backup {s : Settings} (h : s.Reachable) (hdistinct : (identities s.sites).Nodup)
    (policy : DuplicatePolicy) :
    (∀ copy, ofJson s.toPrettyJson = .ok copy →
      (∃ sites extra, copy = { s with sites, extra } ∧
        List.Forall₂ (fun site copied => ∃ extra, copied = { site with extra }) s.sites sites) ∧
      restored policy copy = { copy with extra := [] }) ∧
    ((∀ n ∈ s.unknownNumbers, n.isWhole) →
      ofJson s.toPrettyJson = .ok s ∧ (restored policy s = s ↔ s.extra = [])) := by
  have hreadable := h.readable
  constructor
  · intro copy hcopy
    have hcopied := copiedAs_of_ofJson hreadable.extra.unknown hcopy
    constructor
    · obtain ⟨extra, heq⟩ := hcopied.fields
      refine ⟨copy.sites, extra, heq, ?_⟩
      have hsites := (List.forall₂_and_left _ _).2
        ⟨fun site hsite => (hreadable.sites site hsite).unknown, hcopied.sites⟩
      exact hsites.imp fun site copied hsite => hsite.2.fields hsite.1
    -- copies have the names and hosts of the sites, so none of them falls together with another
    · apply restored_eq
      rwa [identities_eq_of_copiedAs hcopied.sites]
  · intro hwhole
    refine ⟨ofJson_toPrettyJson hreadable hwhole, ?_⟩
    rw [restored_eq hdistinct]
    constructor
    · exact fun heq => (congrArg Settings.extra heq).symm
    · intro hextra
      rw [← hextra]

/-- Two sites of one name are restored, one of them switched off, with an unknown key of a site. -/
theorem restore_backup_twoSites :
    let seasonal : StoredSite :=
      { name := "TV", host := "a.org", enabled := some false
        extra := [("season", .number (.natural 2))] }
    let stored : Settings :=
      { sites := [seasonal, { name := "TV", host := "b.org" }], apiKey := some "k" }
    stored.Reachable ∧ (identities stored.sites).Nodup ∧
      ofJson stored.toPrettyJson = .ok stored ∧ restored .overwrite stored = stored := by
  intro seasonal stored
  have hseasonal : seasonal.Readable (Json.levelLimit - 3) :=
    (Json.Members.Collected.nil _ _).insert (by decide)
      (.number _ (show 2 < Json.wordSize by decide))
  have hreadable : stored.Readable :=
    ⟨.nil _ _, List.forall_mem_cons.2 ⟨hseasonal, List.forall_mem_singleton.2 (.nil _ _)⟩⟩
  have hreachable : stored.Reachable := .load (ofJson_toPrettyJson hreadable (by decide))
  have hdistinct : (identities stored.sites).Nodup := by decide
  obtain ⟨hread, hrestored⟩ := (restore_backup hreachable hdistinct .overwrite).2 (by decide)
  exact ⟨hreachable, hdistinct, hread, hrestored.2 rfl⟩

/-- A theme that another program has put into the document is not restored. -/
theorem not_restore_backup_of_theme :
    ¬ ∀ (s : Settings) (policy : DuplicatePolicy), s.Reachable → (identities s.sites).Nodup →
        ∃ copy, ofJson s.toPrettyJson = .ok copy ∧ restored policy copy = s := by
  intro h
  let themed : Settings := { extra := [("theme", .text "dark")] }
  have hreadable : themed.Readable :=
    ⟨(Json.Members.Collected.nil _ _).insert (by decide) (.text _ _), List.forall_mem_nil _⟩
  have hload : ofJson themed.toPrettyJson = .ok themed := ofJson_toPrettyJson hreadable (by decide)
  obtain ⟨copy, -, hrestored⟩ := h themed .skip (.load hload) List.nodup_nil
  have hextra : (restored .skip copy).extra = [] := rfl
  rw [hrestored] at hextra
  cases hextra

end Settings

end ShowScout
