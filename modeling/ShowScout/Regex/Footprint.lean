import ShowScout.Regex.Expr

/-!
# Footprint of an expression

How many bytes an expression takes up as a byte-level automaton. A pattern whose automaton would not
fit the limit is refused, so that a short pattern with nested repetitions cannot exhaust memory. The
automaton is counted twice, once as it reads a text forwards and once backwards, because classes of
characters share different parts of their encodings in the two directions.
-/

namespace ShowScout.Regex

/-! ## Encoded ranges -/

/-- A run of code points as one range of values per byte of its encoding. -/
abbrev ByteRanges := List (Nat × Nat)

/--
Splits the values `first` to `last`, written with `digits` further six-bit digits after a leading
one, into products of digit ranges. The leading digit comes first and is not yet marked.
-/
def digitRanges : (digits first last : Nat) → List ByteRanges
  | 0, first, last => [[(first, last)]]
  | digits + 1, first, last =>
    let unit := Nat.pow 64 (digits + 1)
    let (lead, lead') := (first / unit, last / unit)
    let inner (lead first last : Nat) : List ByteRanges :=
      (digitRanges digits first last).map fun ranges => (lead, lead) :: ranges
    if lead = lead' then inner lead (first % unit) (last % unit)
    else
      let head := if first % unit = 0 then [] else inner lead (first % unit) (unit - 1)
      let tail := if last % unit = unit - 1 then [] else inner lead' 0 (last % unit)
      let low := if first % unit = 0 then lead else lead + 1
      let high := if last % unit = unit - 1 then lead' + 1 else lead'
      let middle :=
        if low < high then [(low, high - 1) :: List.replicate (digits + 1) (0, 63)] else []
      head ++ middle ++ tail

/-- The blocks of code points with encodings of one length, as (further bytes, first, last). -/
def encodingBlocks : List (Nat × Nat × Nat) :=
  [(0, 0, 0x7F), (1, 0x80, 0x7FF), (2, 0x800, 0xD7FF), (2, 0xE000, 0xFFFF), (3, 0x10000, 0x10FFFF)]

/-- The byte ranges that spell a run of code points; ranges of different lengths stay apart. -/
def encodedRanges (first last : Nat) : List ByteRanges :=
  encodingBlocks.flatMap fun (digits, low, high) =>
    let (first, last) := (max first low, min last high)
    if first ≤ last then digitRanges digits first last else []

def encodedSet (s : CodeSet) : List ByteRanges :=
  s.runs.toList.flatMap fun (first, last) => encodedRanges first last

/-! ## Shared states -/

/-- Puts neighbours with the same first range together. -/
def groupByLead : List ByteRanges → List ((Nat × Nat) × List ByteRanges)
  | [] => []
  | [] :: rest => groupByLead rest
  | (lead :: ranges) :: rest =>
    match groupByLead rest with
    | (lead', members) :: groups =>
      if lead = lead' then (lead, ranges :: members) :: groups
      else (lead, [ranges]) :: (lead', members) :: groups
    | [] => [(lead, [ranges])]

/-- A state as its outgoing ranges with the numbers of the states they lead to; 0 is the end. -/
abbrev ForwardState := List ((Nat × Nat) × Nat)

/-- Adds the states for a family of encodings, taking up equal ones only once. -/
def shareStates : (depth : Nat) → List ByteRanges → List ForwardState → Nat × List ForwardState
  | 0, _, states => (0, states)
  | depth + 1, family, states =>
    match groupByLead family with
    | [] => (0, states)
    | groups =>
      let (state, states) := groups.foldl (fun (state, states) (lead, members) =>
        let (next, states) := shareStates depth members states
        (state ++ [(lead, next)], states)) (([] : ForwardState), states)
      match states.reverse.idxOf? state with
      | some i => (i + 1, states)
      | none => (states.length + 1, state :: states)

/-- All beginnings of the encodings, each once; neighbours are compared only. -/
def countBeginnings : ByteRanges → List ByteRanges → Nat
  | _, [] => 0
  | previous, ranges :: rest =>
    let common := ((previous.zip ranges).takeWhile fun (r, s) => r == s).length
    (ranges.length - common) + countBeginnings ranges rest

/-! ## Sizes -/

/-- The size of a state, of one outgoing range and of one untested branch, in bytes. -/
def stateSize : Nat := 32
def rangeSize : Nat := 8
def branchSize : Nat := 4

/-- The number of bytes in the encoding of a code point. -/
def encodedLength (n : Nat) : Nat :=
  if n ≤ 0x7F then 1 else if n ≤ 0x7FF then 2 else if n ≤ 0xFFFF then 3 else 4

/-- The size of a class of characters. -/
def classFootprint (forward : Bool) (s : CodeSet) : Nat :=
  match s.onlyMember? with
  | some n => stateSize * encodedLength n
  | none =>
    if s.isEmpty then stateSize
    else if s.isBelow 0x7F then 2 * stateSize + rangeSize * s.runs.size
    else
      let family := encodedSet s
      if forward then
        let states := (shareStates 4 family []).2
        states.foldl (fun size state => size + stateSize + rangeSize * state.length) stateSize
      else 2 * stateSize + branchSize * family.length + stateSize * countBeginnings [] family

/-- The size of an expression. Only the forward automaton records groups. -/
def Expr.footprint (forward : Bool) : Expr → Nat
  | .empty => stateSize
  | .one s => classFootprint forward s
  | .look _ => stateSize
  | .seq a b => a.footprint forward + b.footprint forward
  | .alt a b => a.footprint forward + b.footprint forward + stateSize + 2 * branchSize
  | .rounds body count _ =>
    let size := body.footprint forward
    let branch := stateSize + 2 * branchSize
    match count.most with
    | none => size * max count.least 1 + branch
    | some most => size * most + branch * (most - count.least) + stateSize
  | .group _ body => body.footprint forward + if forward then 2 * stateSize else 0

/-- The greatest size an automaton may have. -/
def footprintLimit : Nat := 10 * Nat.pow 2 20

def Expr.fits (e : Expr) : Bool :=
  e.footprint true ≤ footprintLimit && e.footprint false ≤ footprintLimit

end ShowScout.Regex
