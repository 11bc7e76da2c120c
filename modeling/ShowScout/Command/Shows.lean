import ShowScout.Command.Configuration
import ShowScout.Poll.Run
import ShowScout.Server.Resolver

/-!
# Commands on shows

Finding the title of a show on a page, and handing it over to a server.
-/

namespace ShowScout

/-- What is said about a show that would be handed over. -/
def AddShowRequest.dryRunLine (r : AddShowRequest) : String :=
  "would add \"" ++ r.title ++ "\" via " ++ r.url

namespace Configuration

/-! ## Servers -/

/-- The search for the server. Without a key no server would answer, so none is asked. -/
def findServer (c : Configuration) (probe : Probe) (timeout : Nat) : Resolution :=
  if c.apiKey.isEmpty then {}
  else ShowScout.resolve probe timeout c.internalAddress c.externalAddress c.apiKey

/-- The server, or what is missing to find one. -/
def server (c : Configuration) (probe : Probe) (timeout : Nat) :
    Except CommandError ResolvedAddress :=
  match (c.findServer probe timeout).resolved with
  | some address => .ok address
  | none => .error (.needsConfiguration c.settingsPath)

/-- The request to add a show to the server. -/
def addShowRequest (c : Configuration) (probe : Probe) (timeout : Nat) (title : String) :
    Except CommandError AddShowRequest := do
  return .ofAddress title (← c.server probe timeout)

/-- Says which server there is. -/
def resolve (c : Configuration) (s : Surroundings) : CommandM Status := do
  let address ← ofExcept (c.server (.overNetwork s.network) c.probeTimeout)
  CommandM.say (address.base ++ " (" ++ address.kind.name ++ ")")
  return .success

/-! ## Titles -/

/-- The title that a rule finds on a page that is opened for that. -/
def titleOnline (c : Configuration) (s : Surroundings) (rule : Rule) (url : String)
    (headed : Bool) : CommandM (Option String) := do
  let session ← CommandM.launch s (BrowserOptions.setHeadless {} !headed)
  let page ← ofExcept ((session.openPage url).mapError .page)
  let setup : PollSetup :=
    { rule, config := c.poll, ticker := .interval fun _ => [], startedAt := s.clock }
  let (_, outcome) ← ofExcept ((setup.run page).mapError .poll)
  return outcome.title?

/-- Says the title of the show that a page is about. -/
def extract (c : Configuration) (s : Surroundings) (url : String) (headed : Bool) :
    CommandM Status := do
  match c.ruleFor? url with
  | none =>
    CommandM.say "no matching rule"
    return .noResult
  | some rule =>
    match ← c.titleOnline s rule url headed with
    | some title =>
      CommandM.say title
      return .success
    | none =>
      CommandM.say "no title found"
      return .noResult

/-! ## Handing over -/

/-- Hands a show over in a browser that the user sees. -/
def handOver (s : Surroundings) (request : AddShowRequest) : CommandM Unit := do
  let session ← CommandM.launch s .headed
  ofExcept ((session.handOff request).mapError .link)
  CommandM.say ("opened " ++ request.url ++ ", close the browser when done")

/-- Hands the show that a page is about over to the server, or says how that would be done. -/
def add (c : Configuration) (s : Surroundings) (url : String) (headed dryRun : Bool) :
    CommandM Status := do
  match c.ruleFor? url with
  | none =>
    CommandM.say "no matching rule"
    return .noResult
  | some rule =>
    match ← c.titleOnline s rule url headed with
    | none =>
      CommandM.say "no title found"
      return .noResult
    | some title =>
      CommandM.say ("found: " ++ title)
      let request ←
        ofExcept (c.addShowRequest (.overNetwork s.network) c.probeTimeout title)
      if dryRun then CommandM.say request.dryRunLine else handOver s request
      return .success

end Configuration

end ShowScout
