import ShowScout.Unicode.CodeSet

/-!
# Regular expressions

A regular expression over characters, with capture groups, look-around assertions and repetitions
that prefer either more or fewer rounds. Preference decides which of several matches at one place is
taken, so the alternatives of an expression are ordered.
-/

namespace ShowScout.Regex

/-- A condition on the two characters around a position; it consumes nothing. -/
inductive Look where
  | textStart
  | textEnd
  | lineStart
  | lineEnd
  /-- A line start where `\r\n`, `\r` and `\n` each end a line. -/
  | crlfLineStart
  | crlfLineEnd
  | wordEdge (unicode : Bool)
  | notWordEdge (unicode : Bool)
  | wordStart (unicode : Bool)
  | wordEnd (unicode : Bool)
  /-- No word character before the position. -/
  | wordStartHalf (unicode : Bool)
  /-- No word character after the position. -/
  | wordEndHalf (unicode : Bool)
deriving DecidableEq, Repr

/-- How often an expression is repeated; without a `most` there is no upper bound. -/
structure Rounds where
  least : Nat
  most : Option Nat
deriving DecidableEq, Repr

inductive Expr where
  | empty
  /-- One character of the set. -/
  | one (set : CodeSet)
  | look (condition : Look)
  | seq (first second : Expr)
  /-- Either of two expressions, the first preferred. -/
  | alt (first second : Expr)
  /-- Rounds of an expression; a greedy repetition prefers more of them. -/
  | rounds (body : Expr) (count : Rounds) (greedy : Bool)
  /-- A capture group; groups are numbered from 1. -/
  | group (index : Nat) (body : Expr)
deriving Repr

namespace Expr

def ofChar (c : Char) : Expr :=
  .one (.ofChar c)

def seqs : List Expr → Expr
  | [] => .empty
  | [e] => e
  | e :: rest => .seq e (seqs rest)

def alts : List Expr → Expr
  | [] => .one .empty
  | [e] => e
  | e :: rest => .alt e (alts rest)

/-- Whether the expression has a match of length zero. -/
def isNullable : Expr → Bool
  | .empty => true
  | .one _ => false
  | .look _ => true
  | .seq a b => a.isNullable && b.isNullable
  | .alt a b => a.isNullable || b.isNullable
  | .rounds body count _ => count.least == 0 || body.isNullable
  | .group _ body => body.isNullable

/-- Whether every match of the expression has length zero. -/
def isVoid : Expr → Bool
  | .empty => true
  | .one _ => false
  | .look _ => true
  | .seq a b => a.isVoid && b.isVoid
  | .alt a b => a.isVoid && b.isVoid
  | .rounds body count _ => count.most == some 0 || body.isVoid
  | .group _ body => body.isVoid

/--
Repeats an expression. More than one round of an expression that consumes nothing is one round, no
round at all is the empty expression, and exactly one round is the expression itself.
-/
def repeated (body : Expr) (count : Rounds) (greedy : Bool) : Expr :=
  let count : Rounds :=
    if body.isVoid then ⟨min count.least 1, some (min (count.most.getD 1) 1)⟩ else count
  if count = ⟨0, some 0⟩ then .empty
  else if count = ⟨1, some 1⟩ then body
  else .rounds body count greedy

end Expr

end ShowScout.Regex
