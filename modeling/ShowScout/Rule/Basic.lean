import ShowScout.Pattern

/-!
# Site rules

A rule tells how to recognise the pages of a site that are about one show, and how to take the
show's title from such a page.
-/

namespace ShowScout

/-- How the title of a show is taken from a page. -/
inductive Extraction where
  /-- The first group of a pattern, matched against the title of the document. -/
  | regex (pattern : Pattern)
  /-- The text that an XPath expression gives for the document. -/
  | xpath (expression : String)
deriving DecidableEq, Repr

/-- A rule in the form in which it is applied. -/
structure Rule where
  name : String
  /-- A page belongs to the site if its address holds this text. -/
  host : String
  /-- If there is one, it has to match the address of the page as well. -/
  urlPattern : Option Pattern := none
  /-- If there is one, it has to match the text of the page before a title is looked for. -/
  contentPattern : Option Pattern := none
  extraction : Extraction
  /-- Where on the page the offer to add the show is put. -/
  injectionXpath : String
  enabled : Bool := true
deriving DecidableEq, Repr

namespace Rule

def withUrlRegex (r : Rule) (source : String) : Rule :=
  { r with urlPattern := some { source, ignoreCase := true } }

def withContentRegex (r : Rule) (source : String) : Rule :=
  { r with contentPattern := some { source, ignoreCase := true } }

def disable (r : Rule) : Rule :=
  { r with enabled := false }

/-- Takes over everything from an edited rule except whether it is enabled. -/
def applyEdit (r edited : Rule) : Rule :=
  { edited with enabled := r.enabled }

end Rule

end ShowScout
