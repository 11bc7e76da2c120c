import Mathlib
import ShowScout.Proofs.Settings.Documents
import ShowScout.Settings.Merge

/-!
# Settings that a user can come to

Settings start empty or are read from a document, and then change by switching sites and by
importing other documents. Whatever they have become, their text is read back as the same settings:
an import never brings a member of an unknown key that a field of the same level has.
-/

namespace ShowScout

/-! ## Sites of a merge -/

section Merge

variable {policy : DuplicatePolicy} {sites imported : List StoredSite} {report : MergeReport}
  {site other : StoredSite}

/-- One imported site brings no other site. -/
theorem eq_or_mem_of_mem_mergeSite (h : other ∈ (mergeSite policy (sites, report) site).1) :
    other = site ∨ other ∈ sites := by
  unfold mergeSite at h
  dsimp only at h
  split at h
  · cases policy with
    | overwrite => exact (List.mem_or_eq_of_mem_set h).symm
    | skip => exact .inr h
  · exact ((List.mem_append.1 h).imp_right List.mem_singleton.1).symm

/-- Every site after an import was stored or imported. -/
theorem mem_or_mem_of_mem_foldl_mergeSite
    (h : other ∈ (imported.foldl (mergeSite policy) (sites, report)).1) :
    other ∈ sites ∨ other ∈ imported := by
  induction imported generalizing sites report with
  | nil => exact .inl h
  | cons site rest ih =>
    rw [List.foldl_cons] at h
    rcases ih h with hmem | hmem
    · rcases eq_or_mem_of_mem_mergeSite hmem with rfl | hmem
      · exact .inr (by simp)
      · exact .inl hmem
    · exact .inr (List.mem_cons_of_mem site hmem)

end Merge

namespace Settings

variable {s t imported : Settings}

/-! ## Changes -/

theorem readable_empty : Readable {} where
  extra := .nil _ _
  sites := List.forall_mem_nil _

/-- Switching a site leaves its other members alone. -/
theorem Readable.setEnabled (h : s.Readable) {index : Nat} {enabled : Bool}
    (hset : s.setEnabled index enabled = .ok t) : t.Readable := by
  obtain ⟨site, hsite, rfl⟩ := setEnabled_eq_ok_iff.1 hset
  refine ⟨h.extra, fun other hother => ?_⟩
  rcases List.mem_or_eq_of_mem_set hother with hmem | rfl
  · exact h.sites other hmem
  · exact h.sites site (List.mem_of_getElem? hsite)

/-- The sites of a merge are readable as they came, and its members of unknown keys are those that
were stored. -/
theorem Readable.merge (h : s.Readable) (himported : imported.Readable) (o : MergeOptions) :
    (s.merge imported o).1.Readable := by
  refine ⟨h.extra, fun site hsite => ?_⟩
  rcases mem_or_mem_of_mem_foldl_mergeSite hsite with hmem | hmem
  · exact h.sites site hmem
  · exact himported.sites site (List.mem_filter.1 hmem).1

/-! ## Histories -/

/-- Settings that can come about. Loading any document also covers loading again what was saved. -/
inductive Reachable : Settings → Prop
  | default : Reachable {}
  | load {source : String} {s : Settings} : ofJson source = .ok s → Reachable s
  | setEnabled {s t : Settings} {index : Nat} {enabled : Bool} :
      Reachable s → s.setEnabled index enabled = .ok t → Reachable t
  | merge {s imported : Settings} {source : String} (o : MergeOptions) :
      Reachable s → ofJson source = .ok imported → Reachable (s.merge imported o).1

theorem Reachable.readable (h : s.Reachable) : s.Readable := by
  induction h with
  | default => exact readable_empty
  | load hload => exact readable_of_ofJson hload
  | setEnabled _ hset ih => exact ih.setEnabled hset
  | merge o _ himported ih => exact ih.merge (readable_of_ofJson himported) o

/-- Settings survive being saved and loaded, whatever has happened to them, as long as the numbers
of unknown keys are whole; and no member of an unknown key ever takes the key of a field of its
level. -/
theorem ofJson_toPrettyJson_of_reachable (h : s.Reachable) :
    ((∀ n ∈ s.unknownNumbers, n.isWhole) → ofJson s.toPrettyJson = .ok s) ∧
    (∀ m ∈ s.extra, m.1 ∉ knownKeys) ∧
    ∀ site ∈ s.sites, ∀ m ∈ site.extra, m.1 ∉ StoredSite.knownKeys :=
  ⟨ofJson_toPrettyJson h.readable, h.readable.extra.unknown,
    fun site hsite => (h.readable.sites site hsite).unknown⟩

/-- Settings that were saved and loaded take over the site of a document, and one of their sites is
switched off. -/
theorem ofJson_toPrettyJson_of_reachable_switched :
    let seasonal : StoredSite :=
      { name := "Ö \"1\"", host := "a.org", extra := [("season", .number (.natural 2))] }
    let dark : Json.Value := .list [.null, .number (.float (.zero true))]
    let stored : Settings :=
      { sites := [seasonal], apiKey := some "k\n", extra := [("theme", .object [("dark", dark)])] }
    let switched : Settings :=
      { stored with
        sites := [{ seasonal with enabled := some false }, { host := "b.org" }]
        apiLanguages := some ["de"] }
    switched.Reachable ∧ ofJson switched.toPrettyJson = .ok switched := by
  intro seasonal dark stored switched
  have hseasonal : seasonal.Readable (Json.levelLimit - 3) :=
    (Json.Members.Collected.nil _ _).insert (by decide)
      (.number _ (show 2 < Json.wordSize by decide))
  have hdark : dark.Fits (Json.levelLimit - 2) :=
    .list (by simpa using ⟨.null _, .number _ trivial⟩)
  have htheme : (Json.Value.object [("dark", dark)]).Fits (Json.levelLimit - 1) :=
    .object (List.pairwise_singleton _ _) (List.forall_mem_singleton.2 hdark)
  have hreadable : stored.Readable :=
    ⟨(Json.Members.Collected.nil _ _).insert (by decide) htheme,
      List.forall_mem_singleton.2 hseasonal⟩
  have hload : ofJson stored.toPrettyJson = .ok stored :=
    ofJson_toPrettyJson hreadable (by decide)
  let imported : Settings := { sites := [{ host := "b.org" }], apiLanguages := some ["de"] }
  have himport : ofJson ("\x7b\"sites\": [\x7b\"host\": \"b.org\", \"enabled\": null\x7d], " ++
      "\"apiLanguages\": [\"de\"]\x7d") = .ok imported := by
    cbv
  have hswitch : (stored.merge imported {}).1.setEnabled 0 false = .ok switched := rfl
  have hreachable : switched.Reachable := .setEnabled (.merge {} (.load hload) himport) hswitch
  exact ⟨hreachable, (ofJson_toPrettyJson_of_reachable hreachable).1 (by decide)⟩

end Settings

end ShowScout
