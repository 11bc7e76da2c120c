import ShowScout.Server.Address

/-!
# Probes

How it is found out whether a server is there. A probe is a function from a base and a page to what
comes back and when; `overServers` is the probe that asks for the page and waits for a limited time,
and `overNetwork` the one that asks a network in which all answers come at once. A server may send a
request on to another page. The request follows by itself, so that what comes back for a page, and
when, is what comes back in the end.
-/

namespace ShowScout

/-- What comes of a probe, and after how many milliseconds. -/
inductive ProbeReply where
  | never
  | after (delay : Nat) (outcome : Except LinkError Unit)

/-- What a probe of a base with the given page gives. -/
abbrev Probe := String → String → ProbeReply

/-- What a request over the network gives in the end, all redirects followed. -/
inductive Answer where
  | status (code : Nat)
  | unreachable (reason : String)

/-- What a request for each page gives, wherever it is sent on to. -/
abbrev Network := Web.Url → Answer

namespace Network

/-- The network in which nothing is reached. -/
def down : Network := fun _ => .unreachable "Network is unreachable"

/-- What a request for a page gives. -/
def ask (network : Network) (page : String) : Answer :=
  match Web.Url.parse page.toList with
  | .ok url => network url
  | .error e => .unreachable e.message

/-- The line by which a server is first asked for a page, if an answer comes back in the end. -/
def requestLine? (network : Network) (page : String) : Option String :=
  match Web.Url.parse page.toList with
  | .error _ => none
  | .ok url =>
    match network url with
    | .status _ => some (.ofList ("GET ".toList ++ url.target ++ " HTTP/1.1".toList))
    | .unreachable _ => none

end Network

/-! ## Requests that take time -/

/--
How a request is taken: nothing comes back, or an answer after some milliseconds. They include the
time for the redirects that lead to the answer.
-/
inductive Reaction where
  | never
  | after (delay : Nat) (answer : Answer)

/-- How a request for each page is taken, with all redirects that come of it. -/
abbrev Servers := Web.Url → Reaction

/-- Every page answers at once. -/
def Network.atOnce (network : Network) : Servers := fun url => .after 0 (network url)

/-- Why a request has come to nothing. -/
structure RequestFailure where
  /-- What was being done. -/
  stage : String
  /-- The page that was asked for, if it has a reading. -/
  page : Option Web.Url := none
  cause : String

namespace RequestFailure

def message (f : RequestFailure) : String :=
  let place := match f.page with
    | some url => " for url (" ++ .ofList url.text ++ ")"
    | none => ""
  f.stage ++ place ++ ": " ++ f.cause

/-- The failure without the address of the page, which may hold a key. -/
def withoutPage (f : RequestFailure) : RequestFailure :=
  { f with page := none }

end RequestFailure

namespace Servers

/-- What comes of a request for a page within a time limit: how long it takes, and a status code. -/
def request (servers : Servers) (timeout : Nat) (page : String) :
    Nat × Except RequestFailure Nat :=
  match Web.Url.parse page.toList with
  | .error e => (0, .error { stage := "builder error", cause := e.message })
  | .ok url =>
    let failure (cause : String) : RequestFailure :=
      { stage := "error sending request", page := some url, cause }
    let late := (timeout, Except.error (failure "operation timed out"))
    match servers url with
    | .never => late
    | .after delay answer =>
      if delay ≤ timeout then
        match answer with
        | .status code => (delay, .ok code)
        | .unreachable reason => (delay, .error (failure reason))
      else late

end Servers

/-! ## Outcomes -/

/-- Whether an answer shows that a server is there. -/
def outcomeOfAnswer (base : String) : Answer → Except LinkError Unit
  | .status code => if 200 ≤ code ∧ code < 300 then .ok () else .error (.status base code)
  | .unreachable reason => .error (.transport base reason)

/-- What is told of a request. The page is left out, since its address holds the key. -/
def answerOfRequest : Except RequestFailure Nat → Answer
  | .ok code => .status code
  | .error failure => .unreachable failure.withoutPage.message

/-- The probe that asks for the page and waits for as long as the limit allows. -/
def Probe.overServers (servers : Servers) (timeout : Nat) : Probe := fun base page =>
  let (time, result) := servers.request timeout page
  .after time (outcomeOfAnswer base (answerOfRequest result))

/-- The probe that asks for the page where no answer takes time. -/
def Probe.overNetwork (network : Network) : Probe :=
  overServers network.atOnce 0

end ShowScout
