/-!
# Labels in ASCII letters

A label of any script is written in ASCII letters and digits: first its own ASCII characters, then,
after a hyphen, where to insert which other characters. The insertions come in the order of their
code points, and each is told by the distance from the one before, as a number with digits of
varying weight.

`encode` writes and `decode?` reads the form.
-/

namespace ShowScout.Web.Punycode

/-! ## Digits and weights -/

/-- The number of different digits. -/
def base : Nat := 36

/-- Digits are the letters and then the ten decimal digits. -/
def digitChar (d : Nat) : Char :=
  if d < 26 then .ofNat ('a'.toNat + d) else .ofNat ('0'.toNat + (d - 26))

def digit? (c : Char) : Option Nat :=
  if 'a' ≤ c && c ≤ 'z' then some (c.toNat - 'a'.toNat)
  else if 'A' ≤ c && c ≤ 'Z' then some (c.toNat - 'A'.toNat)
  else if '0' ≤ c && c ≤ '9' then some (c.toNat - '0'.toNat + 26)
  else none

/-- A digit below the threshold of its place is the last one of its number. -/
def threshold (place bias : Nat) : Nat :=
  min (max (place - bias) 1) 26

theorem threshold_pos (place bias : Nat) : 1 ≤ threshold place bias := by
  unfold threshold; omega

theorem threshold_le (place bias : Nat) : threshold place bias ≤ 26 := by
  unfold threshold; omega

/-- Divides a distance until it is small, counting the places. -/
def scaleDown (delta places : Nat) : Nat × Nat :=
  if 455 < delta then scaleDown (delta / 35) (places + base) else (delta, places)
termination_by delta

/-- The bias after a distance, which is expected to be like the last one. -/
def adapt (delta count : Nat) (isFirst : Bool) : Nat :=
  let delta := if isFirst then delta / 700 else delta / 2
  let (delta, places) := scaleDown (delta + delta / count) 0
  places + 36 * delta / (delta + 38)

def firstBias : Nat := 72

/-- The first code point that is not written as itself. -/
def firstPoint : Nat := 0x80

def isBasic (c : Char) : Bool :=
  c.toNat < firstPoint

/-! ## Writing -/

/-- The digits of a distance. -/
def deltaDigits (bias place delta : Nat) : List Char :=
  let t := threshold place bias
  if delta < t then [digitChar delta]
  else
    digitChar (t + (delta - t) % (base - t)) ::
      deltaDigits bias (place + base) ((delta - t) / (base - t))
termination_by delta
decreasing_by
  have := threshold_pos place bias
  exact Nat.lt_of_le_of_lt (Nat.div_le_self _ _) (by omega)

/-- What has been written, in reverse, and the state of the count. -/
structure Encoder where
  written : List Char
  delta : Nat := 0
  bias : Nat := firstBias
  /-- The number of characters that the written part stands for. -/
  count : Nat
  basicCount : Nat

/-- Passes one character of the label, writing it if it is the one whose turn it is. -/
def Encoder.pass (point : Nat) (e : Encoder) (c : Char) : Encoder :=
  if c.toNat < point then { e with delta := e.delta + 1 }
  else if c.toNat = point then
    { e with
      written := (deltaDigits e.bias base e.delta).reverse ++ e.written
      delta := 0
      bias := adapt e.delta (e.count + 1) (e.count == e.basicCount)
      count := e.count + 1 }
  else e

/-- Writes all occurrences of one code point, the one before it having been `previous - 1`. -/
def Encoder.writePoint (label : List Char) (e : Encoder) (previous point : Nat) : Encoder :=
  let e := { e with delta := e.delta + (point - previous) * (e.count + 1) }
  let e := label.foldl (Encoder.pass point) e
  { e with delta := e.delta + 1 }

def Encoder.writePoints (label : List Char) (e : Encoder) (previous : Nat) : List Nat → Encoder
  | [] => e
  | point :: rest => (e.writePoint label previous point).writePoints label (point + 1) rest

/-- The code points that are written as insertions, in increasing order. -/
def insertedPoints (label : List Char) : List Nat :=
  (((label.filter (!isBasic ·)).map Char.toNat).mergeSort).eraseReps

/-- The label in ASCII letters and digits. -/
def encode (label : List Char) : List Char :=
  let basic := label.filter isBasic
  let start := if basic.isEmpty then [] else '-' :: basic.reverse
  let e : Encoder := { written := start, count := basic.length, basicCount := basic.length }
  (e.writePoints label firstPoint (insertedPoints label)).written.reverse

/-! ## Reading -/

/-- The largest number that a reader counts to. -/
def limit : Nat := Nat.pow 2 32

/-- A distance of which some digits have been read. -/
structure PartialDelta where
  /-- The place of insertion before this distance. -/
  start : Nat
  weight : Nat
  place : Nat

structure Decoder where
  label : List Char
  point : Nat := firstPoint
  /-- Where the next character goes, counted on through the code points. -/
  position : Nat := 0
  bias : Nat := firstBias
  /-- The distance in the middle of which the reader is. -/
  current : Option PartialDelta := none

/-- Inserts a character where the distance that has just ended says. -/
def Decoder.insert? (d : Decoder) (start : Nat) : Option Decoder :=
  let count := d.label.length + 1
  let point := d.point + d.position / count
  if Nat.isValidChar point then
    let place := d.position % count
    some {
      label := d.label.insertIdx place (.ofNat point)
      point
      position := place + 1
      bias := adapt (d.position - start) count (start == 0) }
  else none

/-- Reads one digit. -/
def Decoder.step? (d : Decoder) (c : Char) : Option Decoder := do
  let now := d.current.getD { start := d.position, weight := 1, place := base }
  let digit ← digit? c
  let position := d.position + digit * now.weight
  guard (position < limit)
  let t := threshold now.place d.bias
  if digit < t then ({ d with position } : Decoder).insert? now.start
  else
    let weight := now.weight * (base - t)
    guard (weight < limit)
    return { d with
      position
      current := some { now with weight, place := now.place + base } }

/-- The part of a written label before its last hyphen, and the digits after it. -/
def splitBasic (s : List Char) : List Char × List Char :=
  let digits := (s.reverse.takeWhile (· != '-')).reverse
  let before := s.take (s.length - digits.length - 1)
  if before.isEmpty then ([], s) else (before, digits)

/-- The label that is written in ASCII letters and digits. -/
def decode? (s : List Char) : Option (List Char) := do
  let (basic, digits) := splitBasic s
  guard (basic.all isBasic)
  let d ← digits.foldlM Decoder.step? { label := basic }
  guard d.current.isNone
  return d.label

end ShowScout.Web.Punycode
