import ShowScout.Settings.Basic

/-!
# Merging settings

Taking over an imported document. Its general fields count where it has them; its sites are added,
or meet the site of the same name and host that is there already.
-/

namespace ShowScout

/-- What becomes of an imported site that is there already. -/
inductive DuplicatePolicy where
  | overwrite
  | skip
deriving DecidableEq, Repr

structure MergeOptions where
  duplicates : DuplicatePolicy := .skip
  /-- If given, only sites with one of these names are imported. -/
  only : Option (List String) := none
deriving DecidableEq, Repr

/-- How many of the imported sites met with which fate. -/
structure MergeReport where
  added : Nat := 0
  overwritten : Nat := 0
  skipped : Nat := 0
deriving DecidableEq, Repr

/-- Whether a site of this name is to be imported. -/
def MergeOptions.selects (o : MergeOptions) (site : StoredSite) : Bool :=
  match o.only with
  | some names => names.contains site.name
  | none => true

/-- Adds one imported site to the sites and to the report. -/
def mergeSite (policy : DuplicatePolicy) (state : List StoredSite × MergeReport)
    (site : StoredSite) : List StoredSite × MergeReport :=
  let (sites, report) := state
  match sites.findIdx? (·.sameSite site) with
  | some index =>
    match policy with
    | .overwrite => (sites.set index site, { report with overwritten := report.overwritten + 1 })
    | .skip => (sites, { report with skipped := report.skipped + 1 })
  | none => (sites ++ [site], { report with added := report.added + 1 })

/-- Merges an imported document into the settings. -/
def Settings.merge (s imported : Settings) (o : MergeOptions) : Settings × MergeReport :=
  let (sites, report) :=
    (imported.sites.filter o.selects).foldl (mergeSite o.duplicates) (s.sites, {})
  ({ s with
      sites
      internalAddress := imported.internalAddress <|> s.internalAddress
      externalAddress := imported.externalAddress <|> s.externalAddress
      apiKey := imported.apiKey <|> s.apiKey
      apiLanguages := imported.apiLanguages <|> s.apiLanguages },
    report)

end ShowScout
