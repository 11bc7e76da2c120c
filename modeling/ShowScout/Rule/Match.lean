import ShowScout.Rule.Stored

/-!
# Rules for an address

Rules are tried in the order in which they are stored, and the first one that applies to an address
is the one for it. No page is loaded for that.
-/

namespace ShowScout

/-- Whether a rule is enabled and both its host and its pattern fit the address. -/
def Rule.appliesTo (r : Rule) (url : String) : Bool :=
  r.enabled && !r.host.isEmpty && Text.holds url r.host &&
    (r.urlPattern.map (·.isMatch url)).getD true

/-- The rules of a list of records, without the records that describe none. -/
def rulesOf (sites : List StoredSite) : List Rule :=
  sites.filterMap fun site => site.toRule.toOption

/-- The first rule for an address. -/
def matchRule (rules : List Rule) (url : String) : Option Rule :=
  rules.find? (·.appliesTo url)

/-- The place of the first rule for an address. -/
def matchIndex (rules : List Rule) (url : String) : Option Nat :=
  rules.findIdx? (·.appliesTo url)

/-- Whether there is a rule for an address, so that the offer to add a show is worth making. -/
def isActionable (rules : List Rule) (url : String) : Bool :=
  (matchRule rules url).isSome

end ShowScout
