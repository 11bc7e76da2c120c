import ShowScout.Command.Configuration

/-!
# Commands on rules
-/

namespace ShowScout

/-- How a rule finds titles, in one word. -/
def Extraction.kindName : Extraction → String
  | .regex _ => "regex"
  | .xpath _ => "xpath"

/-- A word for whether a rule is enabled. -/
def stateName (isEnabled : Bool) : String :=
  if isEnabled then "enabled" else "disabled"

/-- One line of a list of sites, with the numbers and the words below one another. -/
def listLine (index : Nat) (site : StoredSite) : String :=
  let number := toString index
  let state := stateName site.isEnabled
  "".pushn ' ' (3 - number.length) ++ number ++ "  " ++ state ++ "".pushn ' ' (8 - state.length) ++
    "  " ++ site.name ++ "  (" ++ site.host ++ ")"

namespace Configuration

/-- Says which rule there is for an address. -/
def check (c : Configuration) (url : String) : CommandM Status := do
  match c.ruleFor? url with
  | some rule =>
    CommandM.say ("rule: " ++ rule.name)
    CommandM.say ("extraction: " ++ rule.extraction.kindName)
    CommandM.say "actionable: true"
    return .success
  | none =>
    CommandM.say "no matching rule"
    CommandM.say "actionable: false"
    return .noResult

/-- Lists the sites with the numbers by which they are enabled and disabled. -/
def listRules (c : Configuration) : CommandM Status := do
  if c.settings.sites.isEmpty then CommandM.say "no rules configured"
  for (site, index) in c.settings.sites.zipIdx do
    CommandM.say (listLine index site)
  return .success

/-- Enables or disables a site for good. -/
def setRule (c : Configuration) (index : Nat) (enabled : Bool) : CommandM Status := do
  match c.settings.setEnabled index enabled with
  | .error e => throw (.rule e)
  | .ok settings =>
    c.save settings
    if let some site := settings.sites[index]? then
      CommandM.say (stateName enabled ++ " " ++ site.name)
    return .success

end Configuration

end ShowScout
