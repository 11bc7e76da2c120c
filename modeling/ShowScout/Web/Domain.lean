import ShowScout.Unicode.Direction
import ShowScout.Unicode.HostName
import ShowScout.Unicode.Joining
import ShowScout.Unicode.Normalization
import ShowScout.Web.Punycode

/-!
# Names of hosts

A name of any script is brought into the one form in which it is looked up: variants of characters
are replaced, and labels that are not ASCII are written in ASCII letters. A name that could be
mistaken for another one, or that mixes directions of writing, has no such form.
-/

namespace ShowScout.Web

open Unicode

/-- The ASCII characters that no name may hold. -/
def isForbidden (c : Char) : Bool :=
  c ≤ ' ' || c == '\x7f' ||
    ['%', '#', '/', ':', '<', '>', '?', '@', '[', '\\', ']', '^', '|'].contains c

/-- The mark of a label that is written in ASCII letters. -/
def asciiMark : List Char := ['x', 'n', '-', '-']

/-- The longest label that is written in ASCII letters, and the longest that is read from them. -/
def longestWritten : Nat := 1000
def longestRead : Nat := 2000

/-- Variants are replaced, and marks put in order; `none` if a character may not stand in a name. -/
def prepared? (s : List Char) : Option (List Char) := do
  let s := compose (← s.mapM hostForm?).flatten
  guard !(s.any isForbidden)
  return s

/-! ## Labels -/

/-- Whether a character is what a reader of the name would see in its place. -/
def isPlain (c : Char) : Bool :=
  hostForm? c == some [c] && !isForbidden c && c != '.'

/-- A label as it is shown and as it is looked up. -/
structure Label where
  shown : List Char
  ascii : List Char

/-- The label that a part of a prepared name stands for. -/
def Label.ofPart? (part : List Char) : Option Label :=
  if asciiMark.isPrefixOf part then do
    let digits := part.drop asciiMark.length
    guard (digits.getLast? != some '-' && digits.length ≤ longestRead)
    let shown ← Punycode.decode? digits
    guard (!shown.all Punycode.isBasic && shown.all isPlain && compose shown == shown)
    return { shown, ascii := part }
  else if part.all Punycode.isBasic then some { shown := part, ascii := part }
  else some { shown := part, ascii := asciiMark ++ Punycode.encode part }

/-! ### Joiners -/

/-- Whether the text before a joiner, in reverse, ends with a sign that joins letters. -/
def followsVirama (before : List Char) : Bool :=
  match before with
  | c :: _ => combiningClass c == 9
  | [] => false

/-- Whether letters on both sides would join if nothing stood between them. -/
def splitsCursive (before after : List Char) : Bool :=
  let next (s : List Char) : Option Char := (s.dropWhile joinTransparent.containsChar).head?
  (match next before with
    | some c => joinsBoth.containsChar c || joinsFollowing.containsChar c
    | none => false) &&
  (match next after with
    | some c => joinsBoth.containsChar c || joinsPreceding.containsChar c
    | none => false)

/--
Whether every joiner stands where it makes a difference; `before` is the reversed text in front.
-/
def hasOnlyVisibleJoiners (before : List Char) : List Char → Bool
  | [] => true
  | c :: rest =>
    (if c.toNat = 0x200C then followsVirama before || splitsCursive before rest
      else if c.toNat = 0x200D then followsVirama before
      else true) && hasOnlyVisibleJoiners (c :: before) rest

/-! ### Directions -/

/-- The directions of a label, without the marks at its end. -/
def lineDirections (s : List Char) : List Direction :=
  ((s.map direction).reverse.dropWhile (· == .nonspacing)).reverse

/-- Whether a label keeps its order within a line of mixed directions. -/
def keepsOrder (s : List Char) : Bool :=
  let directions := lineDirections s
  let ends (allowed : List Direction) : Bool :=
    match directions.getLast? with
    | some d => allowed.contains d
    | none => true
  match s.map direction with
  | [] => true
  | .leftToRight :: _ =>
    directions.all [.leftToRight, .europeanNumber, .neutral, .nonspacing].contains &&
      ends [.leftToRight, .europeanNumber]
  | .rightToLeft :: _ =>
    directions.all
        [.rightToLeft, .arabicNumber, .europeanNumber, .neutral, .nonspacing].contains &&
      ends [.rightToLeft, .arabicNumber, .europeanNumber] &&
      !(directions.contains .arabicNumber && directions.contains .europeanNumber)
  | _ => false

/-- Whether a label holds a character that is not written from left to right. -/
def mixesDirections (s : List Char) : Bool :=
  s.any fun c => c.toNat ≥ 0x590 &&
    (direction c == .rightToLeft || direction c == .arabicNumber)

/-! ### Whole labels -/

/-- Whether a label starts with a character of its own and its joiners are in place. -/
def Label.isSound (l : Label) : Bool :=
  (match l.shown with
    | c :: _ => isAscii c || !mark.containsChar c
    | [] => true) &&
  hasOnlyVisibleJoiners [] l.shown &&
  (l.shown.all Punycode.isBasic || l.shown.length ≤ longestWritten)

/-! ## Names -/

/-- The form in which a name is looked up. -/
def asciiDomain? (s : List Char) : Option (List Char) := do
  let labels ← ((← prepared? s).splitOn '.').mapM Label.ofPart?
  guard (labels.all Label.isSound)
  guard (!labels.any (fun l => mixesDirections l.shown) || labels.all (fun l => keepsOrder l.shown))
  return List.intercalate ['.'] (labels.map Label.ascii)

end ShowScout.Web
