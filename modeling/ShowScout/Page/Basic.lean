import ShowScout.Unicode.LetterCase

/-!
# Pages

A page as far as it matters here: its address, its title and text, what expressions evaluate to, and
the offer to add a show, which is made once at most.
-/

namespace ShowScout

/-! ## Failures -/

inductive PageError where
  | launch (text : String)
  | navigation (text : String)
  | evaluation (expression details : String)
  | missing (selector : String)
  | injection (text : String)
  | connection (text : String)
deriving DecidableEq, Repr

def PageError.message : PageError → String
  | .launch text => "Browser launch failed: " ++ text
  | .navigation text => "Page navigation failed: " ++ text
  | .evaluation expression details =>
    "Evaluation of '" ++ expression ++ "' failed: " ++ details
  | .missing selector => "Element not found: " ++ selector
  | .injection text => "Injection failed: " ++ text
  | .connection text => "IO error: " ++ text

/-! ## Contents -/

/-- An element of a page, with the expression by which it was found. -/
structure Node where
  xpath : String
  /-- The name of the element, in lower case. -/
  tag : String
deriving DecidableEq, Repr

def Node.ofTag (xpath tag : String) : Node :=
  { xpath, tag := Unicode.toLowercase tag }

/-- An offer to add the show of the given title, at an element. -/
structure Injection where
  title : String
  target : Node
deriving DecidableEq, Repr

structure Page where
  url : String := ""
  title : String := ""
  body : String := ""
  /-- What expressions evaluate to as texts; the first entry for an expression counts. -/
  values : List (String × String) := []
  /-- The elements that expressions lead to; the first entry for an expression counts. -/
  nodes : List (String × Node) := []
  /-- The expressions that cannot be evaluated. -/
  failing : List String := []
  /-- The offers that were made. -/
  injections : List Injection := []
deriving DecidableEq, Repr

namespace Page

/-- Refuses an expression that cannot be evaluated. -/
def guardExpression (p : Page) (xpath : String) : Except PageError Unit :=
  if p.failing.contains xpath then
    .error (.evaluation xpath "The string is not a valid XPath expression")
  else .ok ()

/-- What an expression evaluates to; an unknown one gives the empty text. -/
def evaluate (p : Page) (xpath : String) : Except PageError String := do
  p.guardExpression xpath
  return (p.values.lookup xpath).getD ""

/-- The element that an expression leads to. -/
def locate (p : Page) (xpath : String) : Except PageError (Option Node) := do
  p.guardExpression xpath
  return p.nodes.lookup xpath

def isInjected (p : Page) : Bool :=
  !p.injections.isEmpty

/-- Makes an offer, unless there is one. -/
def inject (p : Page) (injection : Injection) : Page :=
  if p.isInjected then p else { p with injections := [injection] }

def setValue (p : Page) (xpath value : String) : Page :=
  { p with values := (xpath, value) :: p.values }

def addNode (p : Page) (xpath tag : String) : Page :=
  { p with nodes := (xpath, .ofTag xpath tag) :: p.nodes }

def failExpression (p : Page) (xpath : String) : Page :=
  { p with failing := xpath :: p.failing }

end Page

end ShowScout
