import ShowScout.Proofs.Settings.Reachable
import ShowScout.Proofs.Settings.Shared

/-!
# What is shared

A shared document holds the sites that were selected and nothing else, with all that is known of
them except their flags. No object of its text has a flag either, whoever reads it: the unknown keys
of a site never hide a known one. Where nothing is stored yet, the import of such a document adds
each name and host once, and enabled.
-/

namespace ShowScout

/-! ## Objects of free form -/

namespace Json

variable {f : Layout} {levels level : Nat} {members : Members}

/-- Sets further members of a sorted list, one after another. -/
def Members.insertAll (start members : Members) : Members :=
  members.foldl (fun collected m => collected.insert m.1 m.2) start

theorem Members.mem_of_mem_insertAll {start : Members} {m : String × Value}
    (h : m ∈ start.insertAll members) : m ∈ start ∨ m ∈ members := by
  induction members generalizing start with
  | nil => exact .inl h
  | cons first rest ih =>
    rcases ih h with hmem | hmem
    · rcases eq_or_mem_of_mem_insert hmem with rfl | hmem
      · exact .inr (List.mem_cons_self ..)
      · exact .inl hmem
    · exact .inr (List.mem_cons_of_mem first hmem)

/-- Members in any order are collected one after another. -/
theorem collects_insertAll (hf : f.IsBlank) (start : Members)
    (h : ∀ m ∈ members, anything.Accepts levels (m.2.render f level) m.2) :
    Collects (anyMember levels) f level start members (start.insertAll members) := by
  induction members generalizing start with
  | nil => exact .nil _
  | cons m rest ih =>
    obtain ⟨hm, hrest⟩ := List.forall_mem_cons.1 h
    exact .cons (fun _ => anyMember_eq_ok hf hm m.1 start) (ih (start.insert m.1 m.2) hrest)

end Json

/-! ## Objects for sites -/

namespace StoredSite

variable {site : StoredSite} {levels level : Nat} {m : String × Json.Value}

theorem mem_optionalMember {α : Type} {key : String} {f : α → Json.Value} {field : Option α} :
    m ∈ optionalMember key f field ↔ ∃ x ∈ field, m = (key, f x) := by
  cases field <;> simp [optionalMember]

/-- The members of an object for a site are texts, its flag, and those of unknown keys. -/
theorem mem_toMembers (h : m ∈ site.toMembers) :
    (∃ x, m.2 = .text x ∧ m.1 ≠ "enabled") ∨ (∃ b ∈ site.enabled, m.2 = .bool b) ∨
      m ∈ site.extra := by
  simp only [toMembers, List.mem_append, List.mem_cons, List.not_mem_nil, or_false,
    mem_optionalMember, or_assoc] at h
  rcases h with rfl | rfl | ⟨x, -, rfl⟩ | ⟨x, -, rfl⟩ | ⟨x, -, rfl⟩ | ⟨x, -, rfl⟩ | rfl |
    ⟨b, hb, rfl⟩ | hextra
  case inr.inr.inr.inr.inr.inr.inr.inl => exact .inr (.inl ⟨b, hb, rfl⟩)
  case inr.inr.inr.inr.inr.inr.inr.inr => exact .inr (.inr hextra)
  all_goals exact .inl ⟨_, rfl, by simp⟩

/-- Whoever reads an object for a site finds its members. -/
theorem anything_accepts_toJson {f : Json.Layout} (hf : f.IsBlank) (h : site.Readable levels)
    (hwhole : ∀ n ∈ Json.numbersOfMembers site.extra, n.isWhole) :
    Json.anything.Accepts (levels + 1) (site.toJson.render f level)
      (.object (Json.Members.insertAll [] site.toMembers)) := by
  refine Json.anything_accepts_object hf (Json.collects_insertAll hf [] fun m hm => ?_)
  rcases mem_toMembers hm with ⟨x, hx, -⟩ | ⟨b, -, hb⟩ | hextra
  · rw [hx]
    exact Json.anything_accepts hf (.text levels x) (by simp [Json.Value.numbers]) _
  · rw [hb]
    exact Json.anything_accepts hf (.bool levels b) (by simp [Json.Value.numbers]) _
  · exact Json.anything_accepts hf (h.fits m hextra)
      (fun n hn => hwhole n (Json.mem_numbersOfMembers hextra hn)) _

/-- An object for a site without a flag has no member for it, unless among its unknown keys. -/
theorem ne_enabled_of_mem_toMembers (hflag : site.enabled = none)
    (hkeys : ∀ m ∈ site.extra, m.1 ≠ "enabled") (hm : m ∈ site.toMembers) : m.1 ≠ "enabled" := by
  rcases mem_toMembers hm with ⟨x, -, hne⟩ | ⟨b, hb, -⟩ | hextra
  · exact hne
  · rw [hflag] at hb
    cases hb
  · exact hkeys m hextra

end StoredSite

/-! ## Shared documents -/

section Sharing

variable {sites : List StoredSite} {names : List String} {text : String}

theorem selectedSites_eq (sites : List StoredSite) (names : List String) :
    selectedSites sites names =
      (sites.filter (·.name ∈ names)).map fun site => { site with enabled := none } := by
  simp [selectedSites]

theorem selectedSites_eq_nil_iff :
    selectedSites sites names = [] ↔ ∀ site ∈ sites, site.name ∉ names := by
  simp [selectedSites, List.filter_eq_nil_iff]

theorem shareDocument_eq_error_iff :
    shareDocument sites names = .error .emptySelection ↔ ∀ site ∈ sites, site.name ∉ names := by
  rw [← selectedSites_eq_nil_iff, shareDocument]
  split
  · simp [*]
  · rename_i hne
    simpa using hne

theorem exists_shareDocument (h : ∃ site ∈ sites, site.name ∈ names) :
    ∃ text, shareDocument sites names = .ok text := by
  rw [shareDocument]
  split
  · rename_i hnil
    obtain ⟨site, hsite, hname⟩ := h
    exact absurd hname (selectedSites_eq_nil_iff.1 hnil site hsite)
  · exact ⟨_, rfl⟩

/-- Whoever reads a shared document finds an object for each selected site. -/
theorem readDocument_anything_of_shareDocument (h : shareDocument sites names = .ok text)
    (hreadable : ∀ site ∈ sites, site.Readable (Json.levelLimit - 3))
    (hwhole : ∀ site ∈ sites, ∀ n ∈ Json.numbersOfMembers site.extra, n.isWhole) :
    Json.readDocument Json.anything text =
      .ok (.object [("sites", .list ((selectedSites sites names).map fun site =>
        .object (Json.Members.insertAll [] site.toMembers)))]) := by
  have hblank : Json.Layout.pretty.IsBlank := Json.Layout.pretty_isBlank
  have hsites : Json.anything.Accepts (Json.levelLimit - 1)
      ((Json.Value.list ((selectedSites sites names).map StoredSite.toJson)).render .pretty 1)
      (.list ((selectedSites sites names).map fun site =>
        .object (Json.Members.insertAll [] site.toMembers))) := by
    refine Json.anything_accepts_list hblank ?_
    rw [List.forall₂_map_left_iff, List.forall₂_map_right_iff, List.forall₂_same]
    intro copy hcopy
    obtain ⟨site, hsite, rfl⟩ := List.mem_map.1 hcopy
    have hmem := (List.mem_filter.1 hsite).1
    exact StoredSite.anything_accepts_toJson hblank (hreadable site hmem) (hwhole site hmem)
  rw [eq_toPrettyJson_of_shareDocument h]
  apply Json.readDocument_of_accepts
  exact Json.anything_accepts_object hblank
    (.cons (fun _ => Json.anyMember_eq_ok hblank hsites "sites" []) (.nil _))

/-- No object of a shared document has a flag. -/
theorem exists_objects_of_shareDocument (h : shareDocument sites names = .ok text)
    (hreadable : ∀ site ∈ sites, site.Readable (Json.levelLimit - 3))
    (hwhole : ∀ site ∈ sites, ∀ n ∈ Json.numbersOfMembers site.extra, n.isWhole) :
    ∃ objects : List Json.Members,
      Json.readDocument Json.anything text =
        .ok (.object [("sites", .list (objects.map .object))]) ∧
      objects.length = (selectedSites sites names).length ∧
      ∀ members ∈ objects, ∀ m ∈ members, m.1 ≠ "enabled" := by
  refine ⟨(selectedSites sites names).map fun site => Json.Members.insertAll [] site.toMembers, ?_,
    List.length_map _, fun members hmembers m hm => ?_⟩
  · rw [List.map_map]
    exact readDocument_anything_of_shareDocument h hreadable hwhole
  · obtain ⟨copy, hcopy, rfl⟩ := List.mem_map.1 hmembers
    obtain ⟨site, hsite, rfl⟩ := List.mem_map.1 hcopy
    have hunknown := (hreadable site (List.mem_filter.1 hsite).1).unknown
    have hmem := (Json.Members.mem_of_mem_insertAll hm).resolve_left List.not_mem_nil
    refine StoredSite.ne_enabled_of_mem_toMembers ?_ ?_ hmem
    · rfl
    · intro other hother heq
      exact hunknown other hother (by simp [heq, StoredSite.knownKeys])

end Sharing

/-! ## Imports where nothing is stored -/

namespace Settings

/-- Where nothing is stored, every imported name and host comes to stand once. -/
theorem identities_merge_empty (imported : Settings) :
    let merged := (({} : Settings).merge imported { duplicates := .skip }).1
    (identities merged.sites).Nodup ∧
      ∀ identity, identity ∈ identities merged.sites ↔ identity ∈ identities imported.sites := by
  rw [merge_eq]
  refine ⟨nodup_identities_foldl_mergeSite List.nodup_nil, fun identity => ?_⟩
  rw [mem_identities_foldl_mergeSite]
  simp [identities, MergeOptions.selected]

/-- Where nothing is stored, every site comes from the import, and is counted as added. -/
theorem sites_merge_empty (imported : Settings) :
    let (merged, report) := ({} : Settings).merge imported { duplicates := .skip }
    (∀ site ∈ merged.sites, site ∈ imported.sites) ∧ report.added = merged.sites.length := by
  rw [merge_eq]
  constructor
  · intro site hsite
    exact (mem_or_mem_of_mem_foldl_mergeSite hsite).resolve_left List.not_mem_nil
  · have hlength := (foldl_mergeSite_report .skip imported.sites [] {}).1
    simpa [MergeOptions.selected] using hlength.symm

/-! ## Sharing -/

/-- What is shared of settings that a user can come to. There is nothing to share if and only if no
stored site has one of the names. Else the text is read as the sites that have one, in stored order,
with everything but their flags, and without any general field or unknown key of the document. No
object for a site has a flag in the text. Who has stored nothing yet comes to have each name and
host that was selected, once and enabled. -/
theorem share_selected {s : Settings} (h : s.Reachable) (hwhole : ∀ n ∈ s.unknownNumbers, n.isWhole)
    (names : List String) :
    let shared : Settings :=
      { sites := (s.sites.filter (·.name ∈ names)).map fun site => { site with enabled := none } }
    (shareDocument s.sites names = .error .emptySelection ↔
      ∀ site ∈ s.sites, site.name ∉ names) ∧
    ((∃ site ∈ s.sites, site.name ∈ names) →
      ∃ text, shareDocument s.sites names = .ok text ∧
        ofJson text = .ok shared ∧
        (∃ objects : List Json.Members,
          Json.readDocument Json.anything text =
            .ok (.object [("sites", .list (objects.map .object))]) ∧
          objects.length = shared.sites.length ∧
          ∀ members ∈ objects, ∀ m ∈ members, m.1 ≠ "enabled") ∧
        let (merged, report) := ({} : Settings).merge shared { duplicates := .skip }
        (identities merged.sites).Nodup ∧
        (∀ identity, identity ∈ identities merged.sites ↔
          ∃ site ∈ s.sites, site.name ∈ names ∧ site.identity = identity) ∧
        (∀ site ∈ merged.sites, site.isEnabled) ∧
        report.added = merged.sites.length) := by
  intro shared
  have hshared : shared = { sites := selectedSites s.sites names } := by
    rw [selectedSites_eq]
  refine ⟨shareDocument_eq_error_iff, fun hsome => ?_⟩
  obtain ⟨text, htext⟩ := exists_shareDocument hsome
  have hreadable := h.readable
  have hnumbers : ∀ site ∈ s.sites, ∀ n ∈ Json.numbersOfMembers site.extra, n.isWhole :=
    fun site hsite n hn =>
      hwhole n (List.mem_append_right _ (List.mem_flatMap_of_mem hsite hn))
  refine ⟨text, htext, ?_, ?_, ?_⟩
  · rw [hshared]
    exact ofJson_of_shareDocument htext hreadable.sites hnumbers
  · rw [hshared]
    exact exists_objects_of_shareDocument htext hreadable.sites hnumbers
  · obtain ⟨hnodup, hidentities⟩ := identities_merge_empty shared
    obtain ⟨hsites, hadded⟩ := sites_merge_empty shared
    refine ⟨hnodup, fun identity => (hidentities identity).trans ?_, fun site hsite => ?_, hadded⟩
    · simp [shared, identities, StoredSite.identity, and_assoc]
    · obtain ⟨stored, -, rfl⟩ := List.mem_map.1 (hsites site hsite)
      rfl

/-- Of three sites the two of one name are shared, one of them switched off. The name is asked for
twice, and so is one that no site has. -/
theorem share_selected_twoSites :
    let seasonal : StoredSite :=
      { name := "TV", host := "a.org", enabled := some false
        extra := [("season", .number (.natural 2))] }
    let plain : StoredSite := { name := "TV", host := "a.org" }
    let stored : Settings :=
      { sites := [seasonal, { name := "Film", host := "a.org" }, plain], apiKey := some "k" }
    stored.Reachable ∧ (∀ n ∈ stored.unknownNumbers, n.isWhole) ∧
      ∃ text, shareDocument stored.sites ["TV", "Radio", "TV"] = .ok text ∧
        ofJson text = .ok { sites := [{ seasonal with enabled := none }, plain] } := by
  intro seasonal plain stored
  have hseasonal : seasonal.Readable (Json.levelLimit - 3) :=
    (Json.Members.Collected.nil _ _).insert (by decide)
      (.number _ (show 2 < Json.wordSize by decide))
  have hreadable : stored.Readable := by
    refine ⟨.nil _ _, List.forall_mem_cons.2 ⟨hseasonal, ?_⟩⟩
    exact List.forall_mem_cons.2 ⟨.nil _ _, List.forall_mem_singleton.2 (.nil _ _)⟩
  have hwhole : ∀ n ∈ stored.unknownNumbers, n.isWhole := by decide
  have hreachable : stored.Reachable := .load (ofJson_toPrettyJson hreadable hwhole)
  obtain ⟨-, hshare⟩ := share_selected hreachable hwhole ["TV", "Radio", "TV"]
  obtain ⟨text, htext, hread, -⟩ := hshare ⟨seasonal, List.mem_cons_self, by decide⟩
  exact ⟨hreachable, hwhole, text, htext, hread⟩

end Settings

end ShowScout
