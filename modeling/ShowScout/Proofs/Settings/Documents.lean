import ShowScout.Proofs.Json.RoundTrip
import ShowScout.Settings.Basic

/-!
# Settings documents read back

Settings that a document can hold are read back from their text as they were, with the order of the
sites, with fields that are there and fields that are not, and with the members of unknown keys.
What has been read from any document is of that kind.
-/

namespace ShowScout

open Json (Gives gives_ok gives_bind numbersOfMembers)

/-! ## Sites -/

namespace StoredSite

/-- The keys of the fields of a record. -/
def knownKeys : List String :=
  ["name", "host", "urlRegex", "contentRegex", "nameExtractionRegex", "nameExtractionXpath",
    "injectionXpath", "enabled"]

theorem field?_isNone_iff {key : String} : (draftRecord.field? key).isNone ↔ key ∉ knownKeys := by
  simp only [draftRecord, knownKeys]
  split <;> simp_all

/-- A record as it can be read: its other members have other keys and are sorted. -/
def Readable (levels : Nat) (site : StoredSite) : Prop :=
  site.extra.Collected knownKeys levels

/-- Every record that is read can be read again. -/
theorem read_gives (levels : Nat) (s : List Char) :
    Gives (Readable levels) (read (levels + 1) s) := by
  have hdraft (s : List Char) : Gives (fun d : Draft => d.extra.Collected knownKeys levels)
      (Json.record draftRecord (levels + 1) s) := by
    refine Json.record_gives (.nil knownKeys levels) ?_ ?_ s
    · intro key field d s hkey hd
      simp only [draftRecord] at hkey
      -- no field touches the other members
      split at hkey <;> cases hkey <;>
        exact Json.ofSetter_gives (I := fun d : Draft => d.extra.Collected knownKeys levels)
          (P := fun _ => True) (fun _ _ _ => trivial) fun _ _ => hd
    · intro key value d hkey hvalue hd
      exact hd.insert (field?_isNone_iff.1 hkey) hvalue
  exact (hdraft s).bind fun d s hd => gives_ok (x := d.finish) hd s

end StoredSite

/-! ## Fields that may be missing -/

section Fields

variable {f : Json.Layout} {levels level : Nat} {σ α : Type} {r : Json.Record σ} {key : String}
  {reader : Json.Reader α} {toJson : α → Json.Value}

/-- That a field is missing stands for the same as that it has no value. -/
theorem join_map_some (field : Option α) : (field.map some).join = field := by
  cases field <;> rfl

/-- A field that is missing is not read, and one that is there is read as it was written. -/
theorem collects_optionalMember {get : σ → Option (Option α)} {set : Option α → σ → σ}
    (put : Option (Option α) → σ) (hf : f.IsBlank)
    (hfield : r.field? key = some (.ofSetter get (Json.nullable reader) set))
    (hget : get (put none) = none) (hset : ∀ x, put (some x) = set x (put none)) (field : Option α)
    (haccepts : ∀ x ∈ field, reader.Accepts levels ((toJson x).render f level) x)
    (hstarts : ∀ x ∈ field, ((toJson x).render f level).head? ≠ some 'n') :
    Json.Collects (r.member levels) f level (put none) (StoredSite.optionalMember key toJson field)
      (put (field.map some)) := by
  cases field with
  | none => exact .nil _
  | some x =>
    exact Json.collects_field hf hfield hget
      (Json.nullable_accepts (haccepts x rfl) (hstarts x rfl)) (hset (some x))

/-- A text that may be missing. -/
theorem collects_optionalText {get : σ → Option (Option String)} {set : Option String → σ → σ}
    (put : Option (Option String) → σ) (hf : f.IsBlank)
    (hfield : r.field? key = some (.ofSetter get (Json.nullable Json.text) set))
    (hget : get (put none) = none) (hset : ∀ x, put (some x) = set x (put none))
    (field : Option String) :
    Json.Collects (r.member levels) f level (put none) (StoredSite.optionalMember key .text field)
      (put (field.map some)) :=
  collects_optionalMember put hf hfield hget hset field
    (fun x _ => Json.text_accepts f levels level x) fun x _ => by rw [Json.Value.render]; rintro ⟨⟩

end Fields

namespace StoredSite

/-- A record of which so many fields have been read, in the order in which they are written. -/
def draftUpTo (count : Nat) (site : StoredSite) : Draft where
  name := if 0 < count then some site.name else none
  host := if 1 < count then some site.host else none
  urlRegex := if 2 < count then site.urlRegex.map some else none
  contentRegex := if 3 < count then site.contentRegex.map some else none
  nameExtractionRegex := if 4 < count then site.nameExtractionRegex.map some else none
  nameExtractionXpath := if 5 < count then site.nameExtractionXpath.map some else none
  injectionXpath := if 6 < count then some site.injectionXpath else none
  enabled := if 7 < count then site.enabled.map some else none
  extra := if 8 < count then site.extra else []

theorem finish_draftUpTo (site : StoredSite) : (site.draftUpTo 9).finish = site := by
  cases site
  simp [draftUpTo, Draft.finish, join_map_some]

/-- The members for the fields of a record lead to its fields, one by one, whatever other members it
has. -/
theorem collects_fields {f : Json.Layout} (hf : f.IsBlank) (levels level : Nat)
    (site : StoredSite) :
    ∃ fields, site.toMembers = fields ++ site.extra ∧
      Json.Collects (draftRecord.member levels) f level {} fields (site.draftUpTo 8) := by
  have hname : Json.Collects (draftRecord.member levels) f level (site.draftUpTo 0)
      [("name", .text site.name)] (site.draftUpTo 1) :=
    Json.collects_field hf rfl rfl (Json.text_accepts f levels level site.name) rfl
  have hhost : Json.Collects (draftRecord.member levels) f level (site.draftUpTo 1)
      [("host", .text site.host)] (site.draftUpTo 2) :=
    Json.collects_field hf rfl rfl (Json.text_accepts f levels level site.host) rfl
  have hurl : Json.Collects (draftRecord.member levels) f level (site.draftUpTo 2)
      (optionalMember "urlRegex" .text site.urlRegex) (site.draftUpTo 3) :=
    collects_optionalText (fun x => { site.draftUpTo 2 with urlRegex := x }) hf rfl rfl
      (fun _ => rfl) site.urlRegex
  have hcontent : Json.Collects (draftRecord.member levels) f level (site.draftUpTo 3)
      (optionalMember "contentRegex" .text site.contentRegex) (site.draftUpTo 4) :=
    collects_optionalText (fun x => { site.draftUpTo 3 with contentRegex := x }) hf rfl rfl
      (fun _ => rfl) site.contentRegex
  have hregex : Json.Collects (draftRecord.member levels) f level (site.draftUpTo 4)
      (optionalMember "nameExtractionRegex" .text site.nameExtractionRegex) (site.draftUpTo 5) :=
    collects_optionalText (fun x => { site.draftUpTo 4 with nameExtractionRegex := x }) hf rfl rfl
      (fun _ => rfl) site.nameExtractionRegex
  have hxpath : Json.Collects (draftRecord.member levels) f level (site.draftUpTo 5)
      (optionalMember "nameExtractionXpath" .text site.nameExtractionXpath) (site.draftUpTo 6) :=
    collects_optionalText (fun x => { site.draftUpTo 5 with nameExtractionXpath := x }) hf rfl rfl
      (fun _ => rfl) site.nameExtractionXpath
  have hinjection : Json.Collects (draftRecord.member levels) f level (site.draftUpTo 6)
      [("injectionXpath", .text site.injectionXpath)] (site.draftUpTo 7) :=
    Json.collects_field hf rfl rfl (Json.text_accepts f levels level site.injectionXpath) rfl
  have henabled : Json.Collects (draftRecord.member levels) f level (site.draftUpTo 7)
      (optionalMember "enabled" .bool site.enabled) (site.draftUpTo 8) :=
    collects_optionalMember (fun x => { site.draftUpTo 7 with enabled := x }) hf rfl rfl
      (fun _ => rfl) site.enabled (fun b _ => Json.flag_accepts f levels level b)
      fun b _ => by cases b <;> rw [Json.Value.render] <;> decide
  exact ⟨_, rfl, ((((((hname.append hhost).append hurl).append hcontent).append hregex).append
    hxpath).append hinjection).append henabled⟩

/-- The members of a record lead to the record, field by field and then key by key. -/
theorem collects_toMembers {f : Json.Layout} (hf : f.IsBlank) {levels : Nat} {site : StoredSite}
    (h : site.Readable levels) (hwhole : ∀ n ∈ numbersOfMembers site.extra, n.isWhole)
    (level : Nat) :
    Json.Collects (draftRecord.member levels) f level {} site.toMembers (site.draftUpTo 9) := by
  obtain ⟨fields, hmembers, hfields⟩ := collects_fields hf levels level site
  have hextra : Json.Collects (draftRecord.member levels) f level (site.draftUpTo 8) site.extra
      (site.draftUpTo 9) :=
    Json.collects_others (fun extra => { site.draftUpTo 8 with extra }) hf (fun _ _ _ => rfl)
      (fun m hm => field?_isNone_iff.2 (h.unknown m hm)) h.sorted h.fits hwhole
  rw [hmembers]
  exact hfields.append hextra

/-- A record is read as it was written. -/
theorem read_accepts {f : Json.Layout} (hf : f.IsBlank) {levels : Nat} {site : StoredSite}
    (h : site.Readable levels) (hwhole : ∀ n ∈ numbersOfMembers site.extra, n.isWhole)
    (level : Nat) : StoredSite.read.Accepts (levels + 1) (site.toJson.render f level) site := by
  have hrecord := Json.record_accepts (r := draftRecord) hf
    (collects_toMembers hf h hwhole (level + 1))
  refine ⟨hrecord.starts, fun hblanks hends => ?_⟩
  rw [read, toJson, hrecord.reads hblanks hends]
  simp only [bind, Except.bind, finish_draftUpTo]
  rfl

end StoredSite

/-! ## Settings -/

namespace Settings

/-- The keys of the fields of a document. -/
def knownKeys : List String :=
  ["sites", "internalAddress", "externalAddress", "apiKey", "apiLanguages"]

theorem field?_isNone_iff {key : String} : (draftRecord.field? key).isNone ↔ key ∉ knownKeys := by
  simp only [draftRecord, knownKeys]
  split <;> simp_all

/-- Settings as they can be read. The document itself takes a level of nesting, the list of sites
and each site one more. -/
structure Readable (s : Settings) : Prop where
  extra : s.extra.Collected knownKeys (Json.levelLimit - 1)
  sites : ∀ site ∈ s.sites, site.Readable (Json.levelLimit - 3)

theorem readDocument_of_ofJson {source : String} {s : Settings} (h : ofJson source = .ok s) :
    Json.readDocument read source = .ok s := by
  unfold ofJson at h
  cases hdocument : Json.readDocument read source with
  | error error => rw [hdocument] at h; cases h
  | ok read =>
    rw [hdocument] at h
    cases h
    rfl

/-- Settings that have been read can be read again. -/
theorem readable_of_ofJson {source : String} {s : Settings} (h : ofJson source = .ok s) :
    s.Readable := by
  have hdraft (s : List Char) : Gives (fun d : Draft => d.finish.Readable)
      (Json.record draftRecord (Json.levelLimit - 1 + 1) s) := by
    refine Json.record_gives ⟨.nil _ _, List.forall_mem_nil _⟩ ?_ ?_ s
    · intro key field d s hkey hd
      simp only [draftRecord] at hkey
      split at hkey <;> cases hkey
      · exact Json.ofSetter_gives (I := fun d : Draft => d.finish.Readable)
          (Json.listOf_gives (StoredSite.read_gives _) s) fun sites hsites => ⟨hd.extra, hsites⟩
      all_goals
        exact Json.ofSetter_gives (I := fun d : Draft => d.finish.Readable)
          (P := fun _ => True) (fun _ _ _ => trivial) fun _ _ => ⟨hd.extra, hd.sites⟩
    · intro key value d hkey hvalue hd
      exact ⟨hd.extra.insert (field?_isNone_iff.1 hkey) hvalue, hd.sites⟩
  have hread (s : List Char) : Gives Readable (read Json.levelLimit s) :=
    (hdraft s).bind fun d s hd => gives_ok (x := d.finish) hd s
  exact Json.readDocument_gives hread (readDocument_of_ofJson h)

/-- Settings of which so many fields have been read, in the order in which they are written. -/
def draftUpTo (count : Nat) (s : Settings) : Draft where
  sites := if 0 < count then some s.sites else none
  internalAddress := if 1 < count then s.internalAddress.map some else none
  externalAddress := if 2 < count then s.externalAddress.map some else none
  apiKey := if 3 < count then s.apiKey.map some else none
  apiLanguages := if 4 < count then s.apiLanguages.map some else none
  extra := if 5 < count then s.extra else []

theorem finish_draftUpTo (s : Settings) : (s.draftUpTo 6).finish = s := by
  cases s
  simp [draftUpTo, Draft.finish, join_map_some]

/-- The numbers in the members of unknown keys, of the document and of its sites. -/
def unknownNumbers (s : Settings) : List Json.Number :=
  numbersOfMembers s.extra ++ s.sites.flatMap fun site => numbersOfMembers site.extra

/-- The members for the general fields of a document lead to them, one by one, whatever its sites
have been read as. -/
theorem collects_fields {f : Json.Layout} (hf : f.IsBlank) (level : Nat) (s : Settings) :
    ∃ fields, s.toMembers = ("sites", .list (s.sites.map StoredSite.toJson)) :: fields ++ s.extra ∧
      ∀ sites, Json.Collects (draftRecord.member (Json.levelLimit - 1)) f level
        ({ s with sites }.draftUpTo 1) fields ({ s with sites }.draftUpTo 5) := by
  refine ⟨_, rfl, fun sites => ?_⟩
  let s := { s with sites }
  have hinternal : Json.Collects (draftRecord.member (Json.levelLimit - 1)) f level (s.draftUpTo 1)
      (StoredSite.optionalMember "internalAddress" .text s.internalAddress) (s.draftUpTo 2) :=
    collects_optionalText (fun x => { s.draftUpTo 1 with internalAddress := x }) hf rfl rfl
      (fun _ => rfl) s.internalAddress
  have hexternal : Json.Collects (draftRecord.member (Json.levelLimit - 1)) f level (s.draftUpTo 2)
      (StoredSite.optionalMember "externalAddress" .text s.externalAddress) (s.draftUpTo 3) :=
    collects_optionalText (fun x => { s.draftUpTo 2 with externalAddress := x }) hf rfl rfl
      (fun _ => rfl) s.externalAddress
  have hkey : Json.Collects (draftRecord.member (Json.levelLimit - 1)) f level (s.draftUpTo 3)
      (StoredSite.optionalMember "apiKey" .text s.apiKey) (s.draftUpTo 4) :=
    collects_optionalText (fun x => { s.draftUpTo 3 with apiKey := x }) hf rfl rfl
      (fun _ => rfl) s.apiKey
  have hlanguages : Json.Collects (draftRecord.member (Json.levelLimit - 1)) f level (s.draftUpTo 4)
      (StoredSite.optionalMember "apiLanguages" (fun l => .list (l.map .text)) s.apiLanguages)
      (s.draftUpTo 5) :=
    collects_optionalMember (fun x => { s.draftUpTo 4 with apiLanguages := x }) hf rfl rfl
      (fun _ => rfl) s.apiLanguages
      (fun languages _ => Json.listOf_accepts hf fun language _ => Json.text_accepts f _ _ language)
      fun languages _ => by cases languages <;> rintro ⟨⟩
  exact ((hinternal.append hexternal).append hkey).append hlanguages

/-- The members of a document lead to the settings, field by field and then key by key. -/
theorem collects_toMembers {f : Json.Layout} (hf : f.IsBlank) {s : Settings} (h : s.Readable)
    (hwhole : ∀ n ∈ s.unknownNumbers, n.isWhole) (level : Nat) :
    Json.Collects (draftRecord.member (Json.levelLimit - 1)) f level {} s.toMembers
      (s.draftUpTo 6) := by
  obtain ⟨fields, hmembers, hfields⟩ := collects_fields hf level s
  have hsites : Json.Collects (draftRecord.member (Json.levelLimit - 1)) f level (s.draftUpTo 0)
      [("sites", .list (s.sites.map StoredSite.toJson))] (s.draftUpTo 1) := by
    refine Json.collects_field hf rfl rfl (Json.listOf_accepts hf fun site hsite => ?_) rfl
    refine StoredSite.read_accepts hf (h.sites site hsite) (fun n hn => hwhole n ?_) (level + 1)
    exact List.mem_append_right _ (List.mem_flatMap_of_mem hsite hn)
  have hextra : Json.Collects (draftRecord.member (Json.levelLimit - 1)) f level (s.draftUpTo 5)
      s.extra (s.draftUpTo 6) :=
    Json.collects_others (fun extra => { s.draftUpTo 5 with extra }) hf (fun _ _ _ => rfl)
      (fun m hm => field?_isNone_iff.2 (h.extra.unknown m hm)) h.extra.sorted h.extra.fits
      fun n hn => hwhole n (List.mem_append_left _ hn)
  rw [hmembers]
  exact (hsites.append (hfields s.sites)).append hextra

/-- A document is read as it was written. -/
theorem ofJson_toPrettyJson {s : Settings} (h : s.Readable)
    (hwhole : ∀ n ∈ s.unknownNumbers, n.isWhole) : ofJson s.toPrettyJson = .ok s := by
  have hrecord := Json.record_accepts (r := draftRecord) Json.Layout.pretty_isBlank
    (collects_toMembers Json.Layout.pretty_isBlank h hwhole 1)
  have haccepts : read.Accepts Json.levelLimit (s.toJson.render .pretty 0) s := by
    refine ⟨hrecord.starts, fun {blanks rest} hblanks hends => ?_⟩
    have hread : Json.record draftRecord Json.levelLimit _ = _ := hrecord.reads hblanks hends
    rw [read, toJson, hread]
    simp only [bind, Except.bind, finish_draftUpTo]
    rfl
  rw [ofJson, toPrettyJson, Json.Value.pretty, Json.readDocument_of_accepts haccepts]
  rfl

end Settings

end ShowScout
