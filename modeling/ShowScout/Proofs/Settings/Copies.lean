import ShowScout.Proofs.Json.Extent
import ShowScout.Proofs.Settings.Documents
import ShowScout.Proofs.Settings.Merge

/-!
# Copies of settings

What the text of settings is read as, whatever their unknown members hold: the fields are those of
the settings, and only the values of unknown keys may be others.
-/

namespace ShowScout

/-! ## Sites -/

namespace StoredSite

/-- The record is what another one may be read back as. Its members of unknown keys may hold other
values. If the other one has members there that are none, they count as fields, but never as its
name or its host. -/
structure CopiedAs (site copy : StoredSite) : Prop where
  name : copy.name = site.name
  host : copy.host = site.host
  enabled : (∀ m ∈ site.extra, m.1 ≠ "enabled") → copy.enabled = site.enabled
  fields : (∀ m ∈ site.extra, m.1 ∉ knownKeys) → ∃ extra, copy = { site with extra }

/-- What has been read of a copy when all fields of the record have been. -/
structure Copying (site : StoredSite) (d : Draft) : Prop where
  name : d.name = some site.name
  host : d.host = some site.host
  enabled : (∀ m ∈ site.extra, m.1 ≠ "enabled") → d.enabled = site.enabled.map some
  fields : (∀ m ∈ site.extra, m.1 ∉ knownKeys) → ∃ extra, d = { site.draftUpTo 8 with extra }

theorem copying_draftUpTo (site : StoredSite) : site.Copying (site.draftUpTo 8) :=
  ⟨rfl, rfl, fun _ => rfl, fun _ => ⟨[], rfl⟩⟩

theorem Copying.copiedAs {site : StoredSite} {d : Draft} (h : site.Copying d) :
    site.CopiedAs d.finish where
  name := by rw [Draft.finish, h.name]; rfl
  host := by rw [Draft.finish, h.host]; rfl
  enabled hkeys := by rw [Draft.finish, h.enabled hkeys]; exact join_map_some site.enabled
  fields hkeys := by
    obtain ⟨extra, rfl⟩ := h.fields hkeys
    exact ⟨extra, by simp [draftUpTo, Draft.finish, join_map_some]⟩

/-- A copy stays one when a member of the unknown keys is read. -/
theorem member_copying {f : Json.Layout} (hf : f.IsBlank) {levels level : Nat} {site : StoredSite}
    {m : String × Json.Value} (hm : m ∈ site.extra) {d : Draft} (hd : site.Copying d)
    {rest : List Char} (hends : Json.Ends rest) :
    Json.Leaves site.Copying rest
      (draftRecord.member levels m.1 d (f.colon ++ (m.2.render f level ++ rest))) := by
  obtain ⟨key, value⟩ := m
  by_cases hknown : key ∈ knownKeys
  · have hother {d' : Draft} (hname : d'.name = d.name) (hhost : d'.host = d.host)
        (henabled : (∀ m ∈ site.extra, m.1 ≠ "enabled") → d'.enabled = d.enabled) :
        site.Copying d' :=
      ⟨hname.trans hd.name, hhost.trans hd.host, fun h => (henabled h).trans (hd.enabled h),
        fun h => absurd hknown (h _ hm)⟩
    have htext : Json.text.Covers levels (value.render f level) Json.Anything :=
      Json.text_covers value
    have hflag : Json.flag.Covers levels (value.render f level) Json.Anything :=
      Json.flag_covers value
    -- the name and the host have been read, so they cannot be set again
    simp only [knownKeys, List.mem_cons, List.not_mem_nil, or_false] at hknown
    rcases hknown with rfl | rfl | rfl | rfl | rfl | rfl | rfl | rfl
    · refine Json.member_field_leaves hf hends rfl htext fun hget _ _ => ?_
      cases hd.name.symm.trans hget
    · refine Json.member_field_leaves hf hends rfl htext fun hget _ _ => ?_
      cases hd.host.symm.trans hget
    · exact Json.member_field_leaves hf hends rfl (Json.nullable_covers htext) fun _ _ _ =>
        hother rfl rfl fun _ => rfl
    · exact Json.member_field_leaves hf hends rfl (Json.nullable_covers htext) fun _ _ _ =>
        hother rfl rfl fun _ => rfl
    · exact Json.member_field_leaves hf hends rfl (Json.nullable_covers htext) fun _ _ _ =>
        hother rfl rfl fun _ => rfl
    · exact Json.member_field_leaves hf hends rfl (Json.nullable_covers htext) fun _ _ _ =>
        hother rfl rfl fun _ => rfl
    · exact Json.member_field_leaves hf hends rfl htext fun _ _ _ => hother rfl rfl fun _ => rfl
    · exact Json.member_field_leaves hf hends rfl (Json.nullable_covers hflag) fun _ _ _ =>
        hother rfl rfl fun h => absurd rfl (h _ hm)
  · refine Json.member_other_leaves hf hends
      (Option.isNone_iff_eq_none.1 (field?_isNone_iff.2 hknown)) fun value => ?_
    refine ⟨hd.name, hd.host, hd.enabled, fun h => ?_⟩
    obtain ⟨extra, rfl⟩ := hd.fields h
    exact ⟨_, rfl⟩

/-- A record is read as a copy of what was written. -/
theorem read_covers {f : Json.Layout} (hf : f.IsBlank) (levels level : Nat) (site : StoredSite) :
    StoredSite.read.Covers (levels + 1) (site.toJson.render f level) site.CopiedAs := by
  obtain ⟨fields, hmembers, hfields⟩ := collects_fields hf levels (level + 1) site
  have hextra : Json.LeadsTo (draftRecord.member levels) f (level + 1) site.Copying site.extra
      (site.draftUpTo 8) :=
    Json.leadsTo_of_forall (copying_draftUpTo site) fun m hm d hd rest hends =>
      member_copying hf hm hd hends
  have hrecord := Json.record_covers (r := draftRecord) hf (hfields.leadsTo hextra).append
  rw [← hmembers] at hrecord
  intro blanks rest hblanks hends
  exact (hrecord blanks rest hblanks hends).bind fun d hd => Json.leaves_ok hd.copiedAs

end StoredSite

/-- Copies of sites have the names and hosts of the sites, in their order. -/
theorem identities_eq_of_copiedAs {sites copies : List StoredSite}
    (h : List.Forall₂ StoredSite.CopiedAs sites copies) : identities copies = identities sites := by
  induction h with
  | nil => rfl
  | cons hsite _ ih =>
    rw [identities, identities, List.map_cons, List.map_cons]
    exact congrArg₂ _ (Prod.ext hsite.name hsite.host) ih

/-! ## Settings -/

namespace Settings

/-- The settings are what others may be read back as. -/
structure CopiedAs (s copy : Settings) : Prop where
  sites : List.Forall₂ StoredSite.CopiedAs s.sites copy.sites
  fields : ∃ extra, copy = { s with sites := copy.sites, extra }

/-- What has been read of a copy when all fields of the document have been. -/
def Copying (s : Settings) (d : Draft) : Prop :=
  ∃ sites extra, List.Forall₂ StoredSite.CopiedAs s.sites sites ∧
    d = { { s with sites }.draftUpTo 5 with extra }

theorem Copying.copiedAs {s : Settings} {d : Draft} (h : s.Copying d) : s.CopiedAs d.finish := by
  obtain ⟨sites, extra, hsites, rfl⟩ := h
  exact ⟨hsites, extra, by simp [draftUpTo, Draft.finish, join_map_some]⟩

/-- The members of a document lead to a copy, whatever its sites are read as. -/
theorem leadsTo_copying {f : Json.Layout} (hf : f.IsBlank) (level : Nat) {s : Settings}
    (hkeys : ∀ m ∈ s.extra, m.1 ∉ knownKeys) :
    Json.LeadsTo (draftRecord.member (Json.levelLimit - 1)) f level s.Copying s.toMembers {} := by
  obtain ⟨fields, hmembers, hfields⟩ := collects_fields hf level s
  -- the sites are read first, and the fields behind them are read right whatever they became
  have hextra {sites : List StoredSite} (hsites : List.Forall₂ StoredSite.CopiedAs s.sites sites) :
      Json.LeadsTo (draftRecord.member (Json.levelLimit - 1)) f level s.Copying s.extra
        ({ s with sites }.draftUpTo 5) := by
    refine Json.leadsTo_of_forall ⟨sites, [], hsites, rfl⟩ fun m hm d hd rest hends => ?_
    refine Json.member_other_leaves hf hends
      (Option.isNone_iff_eq_none.1 (field?_isNone_iff.2 (hkeys m hm))) fun value => ?_
    obtain ⟨sites, extra, hsites, rfl⟩ := hd
    exact ⟨sites, _, hsites, rfl⟩
  rw [hmembers, List.cons_append]
  refine fun rest hends => Json.member_field_leaves hf hends rfl
    (Json.listOf_covers (R := StoredSite.CopiedAs) hf fun site _ => ?_) fun _ sites hsites => ?_
  · exact StoredSite.read_covers hf _ _ site
  · exact ((hfields sites).leadsTo (hextra hsites)).append

/-- A document is read as a copy of what was written, if it is read at all. -/
theorem copiedAs_of_ofJson {s copy : Settings} (hkeys : ∀ m ∈ s.extra, m.1 ∉ knownKeys)
    (h : ofJson s.toPrettyJson = .ok copy) : s.CopiedAs copy := by
  have hrecord := Json.record_covers (r := draftRecord) Json.Layout.pretty_isBlank
    (leadsTo_copying Json.Layout.pretty_isBlank 1 hkeys)
  have hread : read.Covers Json.levelLimit (s.toJson.render .pretty 0) s.CopiedAs :=
    fun blanks rest hblanks hends => (hrecord blanks rest hblanks hends).bind
      fun d hd => Json.leaves_ok hd.copiedAs
  exact Json.readDocument_of_covers hread (readDocument_of_ofJson h)

end Settings

end ShowScout
