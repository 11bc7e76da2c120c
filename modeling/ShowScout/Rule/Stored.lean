import ShowScout.Json.Reader
import ShowScout.Rule.Basic
import ShowScout.Rule.Error
import ShowScout.Text.Blank

/-!
# Stored sites

The record of a site as it is stored, with whatever a user or another program has put into it. A
record becomes a rule only if it is complete and not contradictory; a rule can always be stored.
-/

namespace ShowScout

structure StoredSite where
  name : String := ""
  host : String := ""
  urlRegex : Option String := none
  contentRegex : Option String := none
  nameExtractionRegex : Option String := none
  nameExtractionXpath : Option String := none
  injectionXpath : String := ""
  /-- A site that does not say so is enabled. -/
  enabled : Option Bool := none
  /-- Members of unknown keys, which are kept. -/
  extra : Json.Members := []

namespace StoredSite

def isEnabled (s : StoredSite) : Bool :=
  s.enabled != some false

/-- Whether two records describe one site. -/
def sameSite (s t : StoredSite) : Bool :=
  s.name == t.name && s.host == t.host

/-! ## Rules from records -/

/-- The one method by which a record extracts names. -/
def extraction (s : StoredSite) (name : String) : Except RuleError Extraction :=
  match Text.nonBlank? s.nameExtractionRegex, Text.nonBlank? s.nameExtractionXpath with
  | some source, none => .ok (.regex { source, ignoreCase := false })
  | none, some expression => .ok (.xpath expression)
  | none, none => .error (.noExtractionMethod name)
  | some _, some _ => .error (.conflictingExtractionMethods name)

/-- A pattern that ignores case, unless the field is blank. -/
def caselessPattern (field : Option String) : Option Pattern :=
  (Text.nonBlank? field).map fun source => { source, ignoreCase := true }

/-- The rule that a record describes, or the first thing that is wrong with it. -/
def toRule (s : StoredSite) : Except RuleError Rule :=
  let name := Text.trim s.name
  let host := Text.trim s.host
  let injectionXpath := Text.trim s.injectionXpath
  if name.isEmpty || host.isEmpty then .error .missingIdentity
  else if injectionXpath.isEmpty then .error (.missingInjectionXpath name)
  else do
    let extraction ← s.extraction name
    return {
      name, host, extraction, injectionXpath
      urlPattern := caselessPattern s.urlRegex
      contentPattern := caselessPattern s.contentRegex
      enabled := s.isEnabled }

/-- The record of a rule. -/
def ofRule (r : Rule) : StoredSite :=
  let (regex, xpath) := match r.extraction with
    | .regex p => (some p.source, none)
    | .xpath e => (none, some e)
  { name := r.name
    host := r.host
    urlRegex := r.urlPattern.map (·.source)
    contentRegex := r.contentPattern.map (·.source)
    nameExtractionRegex := regex
    nameExtractionXpath := xpath
    injectionXpath := r.injectionXpath
    enabled := some r.enabled }

/-! ## Documents -/

/-- A member for a field that has a value. -/
def optionalMember {α : Type} (key : String) (f : α → Json.Value) : Option α → Json.Members
  | some x => [(key, f x)]
  | none => []

/-- The members of the record: the known fields in a fixed order, then the others. -/
def toMembers (s : StoredSite) : Json.Members :=
  [("name", .text s.name), ("host", .text s.host)] ++
    optionalMember "urlRegex" .text s.urlRegex ++
    optionalMember "contentRegex" .text s.contentRegex ++
    optionalMember "nameExtractionRegex" .text s.nameExtractionRegex ++
    optionalMember "nameExtractionXpath" .text s.nameExtractionXpath ++
    [("injectionXpath", .text s.injectionXpath)] ++
    optionalMember "enabled" .bool s.enabled ++ s.extra

def toJson (s : StoredSite) : Json.Value :=
  .object s.toMembers

/-- A record of which only some fields have been read. A field that is `null` has been read. -/
structure Draft where
  name : Option String := none
  host : Option String := none
  urlRegex : Option (Option String) := none
  contentRegex : Option (Option String) := none
  nameExtractionRegex : Option (Option String) := none
  nameExtractionXpath : Option (Option String) := none
  injectionXpath : Option String := none
  enabled : Option (Option Bool) := none
  extra : Json.Members := []

/-- The record, with defaults for the fields that were not there. -/
def Draft.finish (d : Draft) : StoredSite :=
  { name := d.name.getD ""
    host := d.host.getD ""
    urlRegex := d.urlRegex.join
    contentRegex := d.contentRegex.join
    nameExtractionRegex := d.nameExtractionRegex.join
    nameExtractionXpath := d.nameExtractionXpath.join
    injectionXpath := d.injectionXpath.getD ""
    enabled := d.enabled.join
    extra := d.extra }

/-- The fields of the record. -/
def draftRecord : Json.Record Draft where
  title := "StoredSite"
  start := {}
  field? key :=
    match key with
    | "name" => some (.ofSetter (·.name) Json.text fun x d => { d with name := some x })
    | "host" => some (.ofSetter (·.host) Json.text fun x d => { d with host := some x })
    | "urlRegex" =>
      some (.ofSetter (·.urlRegex) (Json.nullable Json.text) fun x d =>
        { d with urlRegex := some x })
    | "contentRegex" =>
      some (.ofSetter (·.contentRegex) (Json.nullable Json.text) fun x d =>
        { d with contentRegex := some x })
    | "nameExtractionRegex" =>
      some (.ofSetter (·.nameExtractionRegex) (Json.nullable Json.text) fun x d =>
        { d with nameExtractionRegex := some x })
    | "nameExtractionXpath" =>
      some (.ofSetter (·.nameExtractionXpath) (Json.nullable Json.text) fun x d =>
        { d with nameExtractionXpath := some x })
    | "injectionXpath" =>
      some (.ofSetter (·.injectionXpath) Json.text fun x d => { d with injectionXpath := some x })
    | "enabled" =>
      some (.ofSetter (·.enabled) (Json.nullable Json.flag) fun x d => { d with enabled := some x })
    | _ => none
  other key value d := { d with extra := d.extra.insert key value }

def read : Json.Reader StoredSite := fun levels s => do
  let (draft, s) ← Json.record draftRecord levels s
  return (draft.finish, s)

/-- Reads a document that holds one record. -/
def ofJson (source : String) : Except Json.Error StoredSite :=
  Json.readDocument read source

end StoredSite

end ShowScout
