/-!
# Sets of code points

A set of code points is kept as its maximal runs in increasing order, so that two sets with the same
members are the same value and membership is a binary search. Characters are code points that are
not surrogates; a set may hold surrogates, which no character then meets.
-/

namespace ShowScout

/-- A set of code points: its maximal runs `(first, last)`, in increasing order. -/
structure CodeSet where
  runs : Array (Nat × Nat)
deriving Inhabited, DecidableEq, Repr

namespace CodeSet

/-- The greatest code point. -/
def top : Nat := 0x10FFFF

/-! ## Building -/

/-- Joins runs that touch or overlap; the input is sorted by first member. -/
def coalesceFrom (first last : Nat) : List (Nat × Nat) → List (Nat × Nat)
  | [] => [(first, last)]
  | (a, b) :: rest =>
    if a ≤ last + 1 then coalesceFrom first (max last b) rest
    else (first, last) :: coalesceFrom a b rest

/-- The set of all members of the given runs, which may come in any order and overlap. -/
def ofRuns (runs : List (Nat × Nat)) : CodeSet :=
  match runs.mergeSort (fun r s => r.1 ≤ s.1) with
  | [] => ⟨#[]⟩
  | (a, b) :: rest => ⟨(coalesceFrom a b rest).toArray⟩

def empty : CodeSet := ⟨#[]⟩

def all : CodeSet := ⟨#[(0, top)]⟩

def singleton (n : Nat) : CodeSet := ⟨#[(n, n)]⟩

def range (first last : Nat) : CodeSet := ⟨#[(first, last)]⟩

def ofChar (c : Char) : CodeSet := singleton c.toNat

/-! ## Membership -/

/-- Binary search for the run that holds `n` among `runs[lo]` to `runs[hi - 1]`. -/
def searchRuns (runs : Array (Nat × Nat)) (n lo hi : Nat) : Bool :=
  if lo < hi then
    let mid := (lo + hi) / 2
    match runs[mid]? with
    | none => false
    | some (a, b) =>
      if n < a then searchRuns runs n lo mid
      else if b < n then searchRuns runs n (mid + 1) hi
      else true
  else false
termination_by hi - lo

def contains (s : CodeSet) (n : Nat) : Bool :=
  searchRuns s.runs n 0 s.runs.size

def containsChar (s : CodeSet) (c : Char) : Bool :=
  s.contains c.toNat

def isEmpty (s : CodeSet) : Bool :=
  s.runs.isEmpty

/-- The only member of a set that has exactly one. -/
def onlyMember? (s : CodeSet) : Option Nat :=
  match s.runs.toList with
  | [(a, b)] => if a = b then some a else none
  | _ => none

/-- Whether every member is at most `n`. -/
def isBelow (s : CodeSet) (n : Nat) : Bool :=
  s.runs.all fun (_, last) => last ≤ n

/-! ## Set algebra -/

def union (s t : CodeSet) : CodeSet :=
  ofRuns (s.runs.toList ++ t.runs.toList)

/-- The runs of the code points from `next` on that no given run holds. -/
def gapsFrom (next : Nat) : List (Nat × Nat) → List (Nat × Nat)
  | [] => if next ≤ top then [(next, top)] else []
  | (a, b) :: rest =>
    if next < a then (next, a - 1) :: gapsFrom (b + 1) rest else gapsFrom (b + 1) rest

def complement (s : CodeSet) : CodeSet :=
  ⟨(gapsFrom 0 s.runs.toList).toArray⟩

def inter (s t : CodeSet) : CodeSet :=
  (s.complement.union t.complement).complement

def diff (s t : CodeSet) : CodeSet :=
  s.inter t.complement

def symmDiff (s t : CodeSet) : CodeSet :=
  (s.union t).diff (s.inter t)

def unions (sets : List CodeSet) : CodeSet :=
  ofRuns (sets.flatMap fun s => s.runs.toList)

/-! ## Written form -/

def hexDigitValue (c : Char) : Nat :=
  if c.isDigit then c.toNat - '0'.toNat else c.toUpper.toNat - 'A'.toNat + 10

/-- The number a run of hexadecimal digits stands for. -/
def hexValue (digits : List Char) : Nat :=
  digits.foldl (fun n c => n * 16 + hexDigitValue c) 0

/-- The members `first`, `first + 2`, … up to `last`, each a run of its own. -/
def everySecond (first last : Nat) : List (Nat × Nat) :=
  (List.range ((last - first) / 2 + 1)).map fun i => (first + 2 * i, first + 2 * i)

/--
Reads one entry of a table: `41` is a single code point, `41-5A` a run and `100-136/2` every second
code point of a run, all in hexadecimal.
-/
def entryRuns (entry : List Char) : List (Nat × Nat) :=
  let isSeparator := fun c => c == '-'
  let first := hexValue (entry.takeWhile (!isSeparator ·))
  match (entry.dropWhile (!isSeparator ·)).drop 1 with
  | [] => [(first, first)]
  | last =>
    if last.drop (last.length - 2) = ['/', '2'] then
      everySecond first (hexValue (last.take (last.length - 2)))
    else [(first, hexValue last)]

/-- Reads a table, given as lines of entries separated by blanks. -/
def ofLines (lines : List String) : CodeSet :=
  ofRuns (lines.flatMap fun line =>
    (line.splitOn " ").flatMap fun entry => if entry.isEmpty then [] else entryRuns entry.toList)

def ofText (text : String) : CodeSet :=
  ofLines [text]

end CodeSet

end ShowScout
