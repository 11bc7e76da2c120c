import ShowScout.Settings.Basic

/-!
# Sharing rules

A document with some of the sites, for others to import. Whether a site is enabled is left out: that
is for each user to decide.
-/

namespace ShowScout

/-- The sites with one of the given names, without their flags. -/
def selectedSites (sites : List StoredSite) (names : List String) : List StoredSite :=
  (sites.filter fun site => names.contains site.name).map fun site => { site with enabled := none }

/-- The document to share. -/
def shareDocument (sites : List StoredSite) (names : List String) : Except RuleError String :=
  match selectedSites sites names with
  | [] => .error .emptySelection
  | selected => .ok (Json.Value.object [("sites", .list (selected.map StoredSite.toJson))]).pretty

end ShowScout
