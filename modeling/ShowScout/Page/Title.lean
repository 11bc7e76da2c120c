import ShowScout.Page.Live
import ShowScout.Rule.Basic
import ShowScout.Text.Blank

/-!
# Titles of shows

The title that a rule extracts from a page. A page that is still rendering has none yet, so a
request that fails is no error here.
-/

namespace ShowScout

namespace Rule

/-- The request by which a rule's extraction reads the page. -/
def titleCall (r : Rule) : PageCall :=
  match r.extraction with
  | .regex _ => .title
  | .xpath _ => .evaluate

/-- The piece of the page that a rule extracts. -/
def rawTitle (r : Rule) (p : LivePage) : Option String :=
  match r.extraction with
  | .regex pattern => p.title.toOption.bind pattern.firstCapture
  | .xpath expression => (p.evaluate expression).toOption

/-- The title that a rule extracts: the piece of the page without the blanks around it. -/
def title? (r : Rule) (p : LivePage) : Option String := do
  let title := Text.trim (← r.rawTitle p)
  guard !title.isEmpty
  return title

/-- The element at which a rule's offer goes. -/
def target? (r : Rule) (p : LivePage) : Option Node :=
  (p.locate r.injectionXpath).toOption.join

/-- Whether a page holds the content without which a rule does not look for a title. -/
def hasContent (r : Rule) (p : LivePage) : Bool :=
  match r.contentPattern with
  | some pattern =>
    match p.body with
    | .ok text => pattern.isMatch text
    | .error _ => false
  | none => true

end Rule

end ShowScout
