import ShowScout.Unicode.CodeSet

/-!
# Tables of code points

Tables that map a code point to another one, or to a sequence of them: their written form, and
look-up in them.
-/

namespace ShowScout.Unicode

/-- Whether a character is ASCII. What holds for these characters is known without any table. -/
def isAscii (c : Char) : Bool :=
  c.toNat < 0x80

/-! ## Written form -/

/--
Reads one entry of a mapping table: `41-5A:61` maps a run onto the run that starts at `61`, and
`100-12E/2:101` maps every second code point of a run in the same way.
-/
def mappingEntry (entry : List Char) : List (Nat × Nat) :=
  let domain := entry.takeWhile (· != ':')
  let image := CodeSet.hexValue ((entry.dropWhile (· != ':')).drop 1)
  let members := (CodeSet.entryRuns domain).flatMap fun (a, b) =>
    (List.range (b + 1 - a)).map (a + ·)
  let first := members.headD 0
  members.map fun n => (n, image + (n - first))

/-- Reads a mapping table, whose entries are separated by blanks. -/
def mappingOfLines (lines : List String) : List (Nat × Nat) :=
  lines.flatMap fun line => (line.splitOn " ").flatMap fun entry => mappingEntry entry.toList

/--
Reads one entry of a table of sequences: `FB01:66,69` maps one code point, and `C0-C2:41,300` a run,
where the last member of the sequence counts up with the code point.
-/
def sequenceEntry (entry : List Char) : List (Nat × List Nat) :=
  let domain := entry.takeWhile (· != ':')
  let image := (((entry.dropWhile (· != ':')).drop 1).splitOn ',').map CodeSet.hexValue
  let members := (CodeSet.entryRuns domain).flatMap fun (a, b) =>
    (List.range (b + 1 - a)).map (a + ·)
  let first := members.headD 0
  members.map fun n => (n, image.dropLast ++ [image.getLastD 0 + (n - first)])

/-- Reads a table of sequences, whose entries are separated by blanks. -/
def sequencesOfLines (lines : List String) : List (Nat × List Nat) :=
  lines.flatMap fun line => (line.splitOn " ").flatMap fun entry => sequenceEntry entry.toList

/-! ## Look-up -/

/--
Binary search for the image of `n` among `table[lo]` to `table[hi - 1]`, sorted by code point.
-/
def lookUpFrom {α : Type} (table : Array (Nat × α)) (n lo hi : Nat) : Option α :=
  if lo < hi then
    let mid := (lo + hi) / 2
    match table[mid]? with
    | none => none
    | some (a, image) =>
      if n < a then lookUpFrom table n lo mid
      else if a < n then lookUpFrom table n (mid + 1) hi
      else some image
  else none
termination_by hi - lo

def lookUp {α : Type} (table : Array (Nat × α)) (n : Nat) : Option α :=
  lookUpFrom table n 0 table.size

end ShowScout.Unicode
