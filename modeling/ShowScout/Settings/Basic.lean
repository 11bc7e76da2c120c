import ShowScout.Rule.Match

/-!
# Settings

Everything that is configured: the server's addresses and key, and the sites. Keys that are not
known here are carried along, so that a document of another version survives.
-/

namespace ShowScout

structure Settings where
  sites : List StoredSite := []
  internalAddress : Option String := none
  externalAddress : Option String := none
  apiKey : Option String := none
  apiLanguages : Option (List String) := none
  /-- Members of unknown keys, which are kept. -/
  extra : Json.Members := []

namespace Settings

/-- The rules of the sites that describe one, in stored order. -/
def rules (s : Settings) : List Rule :=
  rulesOf s.sites

/-- The languages of the server's answers; English if none are stored. -/
def languages (s : Settings) : List String :=
  s.apiLanguages.getD ["en"]

/-- Enables or disables one site and leaves all else alone. -/
def setEnabled (s : Settings) (index : Nat) (enabled : Bool) : Except RuleError Settings :=
  match s.sites[index]? with
  | some site => .ok { s with sites := s.sites.set index { site with enabled := some enabled } }
  | none => .error (.indexOutOfRange index s.sites.length)

theorem setEnabled_eq_ok_iff {s t : Settings} {index : Nat} {enabled : Bool} :
    s.setEnabled index enabled = .ok t ↔ ∃ site, s.sites[index]? = some site ∧
      t = { s with sites := s.sites.set index { site with enabled := some enabled } } := by
  unfold setEnabled
  cases s.sites[index]? <;> simp [eq_comm]

/-! ## Documents -/

def toMembers (s : Settings) : Json.Members :=
  [("sites", .list (s.sites.map StoredSite.toJson))] ++
    StoredSite.optionalMember "internalAddress" .text s.internalAddress ++
    StoredSite.optionalMember "externalAddress" .text s.externalAddress ++
    StoredSite.optionalMember "apiKey" .text s.apiKey ++
    StoredSite.optionalMember "apiLanguages" (fun l => .list (l.map .text)) s.apiLanguages ++
    s.extra

def toJson (s : Settings) : Json.Value :=
  .object s.toMembers

/-- The text in which settings are stored. -/
def toPrettyJson (s : Settings) : String :=
  s.toJson.pretty

/-- Settings of which only some fields have been read. A field that is `null` has been read. -/
structure Draft where
  sites : Option (List StoredSite) := none
  internalAddress : Option (Option String) := none
  externalAddress : Option (Option String) := none
  apiKey : Option (Option String) := none
  apiLanguages : Option (Option (List String)) := none
  extra : Json.Members := []

/-- The settings, with defaults for the fields that were not there. -/
def Draft.finish (d : Draft) : Settings :=
  { sites := d.sites.getD []
    internalAddress := d.internalAddress.join
    externalAddress := d.externalAddress.join
    apiKey := d.apiKey.join
    apiLanguages := d.apiLanguages.join
    extra := d.extra }

/-- The fields of a settings document. -/
def draftRecord : Json.Record Draft where
  title := "Settings"
  start := {}
  field? key :=
    match key with
    | "sites" =>
      some (.ofSetter (·.sites) (Json.listOf StoredSite.read) fun x d => { d with sites := some x })
    | "internalAddress" =>
      some (.ofSetter (·.internalAddress) (Json.nullable Json.text) fun x d =>
        { d with internalAddress := some x })
    | "externalAddress" =>
      some (.ofSetter (·.externalAddress) (Json.nullable Json.text) fun x d =>
        { d with externalAddress := some x })
    | "apiKey" =>
      some (.ofSetter (·.apiKey) (Json.nullable Json.text) fun x d => { d with apiKey := some x })
    | "apiLanguages" =>
      some (.ofSetter (·.apiLanguages) (Json.nullable (Json.listOf Json.text)) fun x d =>
        { d with apiLanguages := some x })
    | _ => none
  other key value d := { d with extra := d.extra.insert key value }

def read : Json.Reader Settings := fun levels s => do
  let (draft, s) ← Json.record draftRecord levels s
  return (draft.finish, s)

/-- Reads a settings document. -/
def ofJson (source : String) : Except RuleError Settings :=
  (Json.readDocument read source).mapError .unreadable

end Settings

end ShowScout
