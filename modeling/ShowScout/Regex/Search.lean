import ShowScout.Regex.Program
import ShowScout.Unicode.Property

/-!
# Searching a text

Runs a program over a text, one character at a time and all threads in step. The match found is the
leftmost one, and of those that start there the one the expression prefers. The work is bounded by
the product of the lengths of the program and the text, since two threads at one instruction are
one.
-/

namespace ShowScout.Regex

/-! ## Looking around -/

/-- Whether a character belongs to a word; the edge of the text does not. -/
def isWordChar (unicode : Bool) : Option Char → Bool
  | none => false
  | some c =>
    if unicode then Unicode.word.containsChar c else c.isAlphanum || c == '_'

/-- Whether a condition holds between two characters, absent at the edges of the text. -/
def Look.holds (condition : Look) (before after : Option Char) : Bool :=
  match condition with
  | .textStart => before.isNone
  | .textEnd => after.isNone
  | .lineStart => before.isNone || before == some '\n'
  | .lineEnd => after.isNone || after == some '\n'
  | .crlfLineStart =>
    before.isNone || before == some '\n' || (before == some '\r' && after != some '\n')
  | .crlfLineEnd =>
    after.isNone || after == some '\r' || (after == some '\n' && before != some '\r')
  | .wordEdge unicode => isWordChar unicode before != isWordChar unicode after
  | .notWordEdge unicode => isWordChar unicode before == isWordChar unicode after
  | .wordStart unicode => !isWordChar unicode before && isWordChar unicode after
  | .wordEnd unicode => isWordChar unicode before && !isWordChar unicode after
  | .wordStartHalf unicode => !isWordChar unicode before
  | .wordEndHalf unicode => !isWordChar unicode after

/-! ## Threads -/

/-- Positions recorded so far, counted in characters from the start of the text. -/
abbrev Slots := Array (Option Nat)

/-- A way of matching: where it continues, and what it has recorded. -/
structure Thread where
  place : Nat
  slots : Slots

/--
Follows threads through the instructions that consume nothing, in order of preference. A place that
a preferred thread has reached is closed to the others. `waiting` are the threads that have arrived
at an instruction that consumes a character or accepts, in reverse. Every step either closes a place
or drops a thread, which bounds their number.
-/
def follow (p : Program) (position : Nat) (before after : Option Char) :
    (steps : Nat) → (threads : List Thread) → (closed : Array Bool) → (waiting : List Thread) →
    List Thread
  | 0, _, _, waiting => waiting.reverse
  | _, [], _, waiting => waiting.reverse
  | steps + 1, t :: threads, closed, waiting =>
    if closed.getD t.place true then follow p position before after steps threads closed waiting
    else
      let closed := closed.setIfInBounds t.place true
      match p.code.getD t.place .accept with
      | .accept => follow p position before after steps threads closed (t :: waiting)
      | .one _ _ => follow p position before after steps threads closed (t :: waiting)
      | .look condition next =>
        if condition.holds before after then
          follow p position before after steps ({ t with place := next } :: threads) closed waiting
        else follow p position before after steps threads closed waiting
      | .fork first second =>
        follow p position before after steps
          ({ t with place := first } :: { t with place := second } :: threads) closed waiting
      | .mark slot next =>
        let slots := t.slots.setIfInBounds slot (some position)
        follow p position before after steps ({ place := next, slots } :: threads) closed waiting

/--
The threads that consume a character, up to the first that accepts, with what that one recorded.
-/
def consume (p : Program) (c : Option Char) : List Thread → List Thread × Option Slots
  | [] => ([], none)
  | t :: threads =>
    match p.code.getD t.place .accept with
    | .one s next =>
      let (rest, accepted) := consume p c threads
      match c with
      | some c =>
        if s.containsChar c then ({ t with place := next } :: rest, accepted) else (rest, accepted)
      | none => (rest, accepted)
    | _ => ([], some t.slots)

/--
Searches the rest of a text. As long as no match is known, a new thread starts at every position,
less preferred than all that started before.
-/
def searchFrom (p : Program) (position : Nat) (before : Option Char) (threads : List Thread)
    (found : Option Slots) (text : List Char) : Option Slots :=
  let fresh : Thread := { place := p.start, slots := Array.replicate p.slots none }
  let threads := if found.isNone then threads ++ [fresh] else threads
  if threads.isEmpty then found
  else
    let waiting :=
      follow p position before text.head? (2 * p.code.size + threads.length + 1) threads
      (Array.replicate p.code.size false) []
    let (next, accepted) := consume p text.head? waiting
    let found := accepted <|> found
    match text with
    | [] => found
    | c :: rest => searchFrom p (position + 1) (some c) next found rest

/-- The slots of the leftmost preferred match. -/
def Program.search (p : Program) (text : List Char) : Option Slots :=
  searchFrom p 0 none [] none text

/-- Where a group took part in a match, as start and end positions. -/
def groupSpan (slots : Slots) (index : Nat) : Option (Nat × Nat) :=
  match slots[2 * index]?, slots[2 * index + 1]? with
  | some (some first), some (some last) => some (first, last)
  | _, _ => none

end ShowScout.Regex
