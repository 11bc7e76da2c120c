import ShowScout.Page.Basic

/-!
# Live pages

A page in a browser answers when it is ready to, or not at all. Each kind of request to it can go
wrong in a way of its own, and anything can change while the page renders.
-/

namespace ShowScout

/-- What a page is asked for, or asked to do. -/
inductive PageCall where
  | url
  | title
  | body
  | evaluate
  | locate
  | isInjected
  | inject
deriving DecidableEq, Repr

namespace PageCall

def all : List PageCall := [url, title, body, evaluate, locate, isInjected, inject]

def name : PageCall → String
  | url => "url"
  | title => "title"
  | body => "body"
  | evaluate => "evaluate"
  | locate => "locate"
  | isInjected => "is_injected"
  | inject => "inject"

end PageCall

/-- How requests of one kind go wrong. -/
inductive Fault where
  | none
  | error
  /-- The answer never comes. -/
  | stall
  /-- The answer comes after some milliseconds, and may then be an error. -/
  | delay (milliseconds : Nat) (fails : Bool)
deriving DecidableEq, Repr

namespace Fault

/-- Whether the answer is an error. -/
def fails : Fault → Bool
  | error => true
  | delay _ fails => fails
  | none | stall => false

/-- When the answer comes, if it does not come at once: at some time, or never. -/
def pause? (now : Nat) : Fault → Option (Option Nat)
  | none | error => .none
  | stall => some .none
  | delay 0 _ => .none
  | delay (n + 1) _ => some (some (now + (n + 1)))

end Fault

structure LivePage where
  page : Page := {}
  faults : PageCall → Fault := fun _ => .none

namespace LivePage

/-- What comes back from a request of a kind, given what the page itself answers. -/
def reply {α : Type} (p : LivePage) (call : PageCall) (answer : Except PageError α) :
    Except PageError α :=
  if (p.faults call).fails then .error (.evaluation call.name "fault") else answer

def url (p : LivePage) : Except PageError String :=
  p.reply .url (.ok p.page.url)

def title (p : LivePage) : Except PageError String :=
  p.reply .title (.ok p.page.title)

def body (p : LivePage) : Except PageError String :=
  p.reply .body (.ok p.page.body)

def evaluate (p : LivePage) (xpath : String) : Except PageError String :=
  p.reply .evaluate (p.page.evaluate xpath)

def locate (p : LivePage) (xpath : String) : Except PageError (Option Node) :=
  p.reply .locate (p.page.locate xpath)

def isInjected (p : LivePage) : Except PageError Bool :=
  p.reply .isInjected (.ok p.page.isInjected)

/-- Makes an offer on the page. -/
def inject (p : LivePage) (injection : Injection) : Except PageError LivePage :=
  p.reply .inject (.ok { p with page := p.page.inject injection })

end LivePage

/-! ## Changes -/

/-- What can change on a page while it renders. -/
inductive PageChange where
  | title (text : String)
  | body (text : String)
  | value (xpath text : String)
  | node (xpath tag : String)
  | failing (xpath : String)
  | fault (call : PageCall) (fault : Fault)
deriving DecidableEq, Repr

/-- Carries out a change. -/
def LivePage.apply (p : LivePage) : PageChange → LivePage
  | .title text => { p with page := { p.page with title := text } }
  | .body text => { p with page := { p.page with body := text } }
  | .value xpath text => { p with page := p.page.setValue xpath text }
  | .node xpath tag => { p with page := p.page.addNode xpath tag }
  | .failing xpath => { p with page := p.page.failExpression xpath }
  | .fault call fault => { p with faults := fun c => if c = call then fault else p.faults c }

end ShowScout
