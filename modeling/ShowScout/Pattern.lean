import ShowScout.Regex.Footprint
import ShowScout.Regex.Parser
import ShowScout.Regex.Search

/-!
# Patterns written by users

A pattern is a regular expression as a user wrote it. One that cannot be read is kept, so that it
can be shown and stored again, but it never matches: a rule with a broken pattern is inert rather
than wrong.
-/

namespace ShowScout

structure Pattern where
  source : String
  ignoreCase : Bool
deriving DecidableEq, Repr

namespace Pattern

/-- The pattern as a program, unless its source has no reading or asks for too large a one. -/
def program? (p : Pattern) : Option Regex.Program := do
  let parsed ← Regex.Pattern.parse p.ignoreCase p.source.toList
  guard parsed.expr.fits
  return .ofExpr parsed.expr parsed.groups

def isValid (p : Pattern) : Bool :=
  p.program?.isSome

/-- What the leftmost match in a text records. -/
def match? (p : Pattern) (text : String) : Option Regex.Slots := do
  (← p.program?).search text.toList

/-- Whether the pattern matches anywhere in a text. -/
def isMatch (p : Pattern) (text : String) : Bool :=
  (p.match? text).isSome

/-- The part of a text between two positions. -/
def slice (text : String) (first last : Nat) : String :=
  .ofList ((text.toList.drop first).take (last - first))

/-- The text of the first group of the leftmost match, if the group took part and is not empty. -/
def firstCapture (p : Pattern) (text : String) : Option String := do
  let (first, last) ← Regex.groupSpan (← p.match? text) 1
  let captured := slice text first last
  guard !captured.isEmpty
  return captured

end Pattern

end ShowScout
