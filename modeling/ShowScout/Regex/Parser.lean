import ShowScout.Regex.Expr
import ShowScout.Unicode.LetterCase
import ShowScout.Unicode.Script

/-!
# Reading regular expressions

Reads the written form of a regular expression. A pattern is read in one pass: the flags in force
are part of the reader's state, so that a class or a literal already has its final meaning when it
is read. A pattern that is nested too deeply, asks for a property that does not exist or uses a
feature outside the language (look-ahead, back references) has no reading.
-/

namespace ShowScout.Regex

/-! ## The reader's state -/

/-- The modes of a pattern, which it can switch itself with `(?…)`. -/
structure Flags where
  ignoreCase : Bool := false
  multiLine : Bool := false
  dotMatchesNewline : Bool := false
  swapGreed : Bool := false
  unicode : Bool := true
  crlf : Bool := false
  /-- Blanks and comments between the parts of a pattern are skipped. -/
  verbose : Bool := false
deriving DecidableEq, Repr

structure Cursor where
  rest : List Char
  flags : Flags
  /-- How many capture groups have been opened. -/
  groups : Nat := 0
  groupNames : List (List Char) := []

abbrev Reader := StateT Cursor Option

/-- A part of a pattern: what it matches, and how deeply it is nested. -/
structure Piece where
  expr : Expr
  depth : Nat := 0

/-- The greatest nesting of a pattern. -/
def depthLimit : Nat := 250

namespace Reader

def flags : Reader Flags := return (← get).flags

def setFlags (flags : Flags) : Reader Unit := modify ({ · with flags })

def peek : Reader (Option Char) := return (← get).rest.head?

def advance : Reader Unit := modify fun s => { s with rest := s.rest.drop 1 }

/-- The next character, which has to exist. -/
def current : Reader Char := do (← peek)

def isBlank (c : Char) : Bool :=
  Unicode.whiteSpace.containsChar c

/-- Skips blanks, and comments from `#` to the end of the line. -/
def dropBlanks : (inComment : Bool) → List Char → List Char
  | _, [] => []
  | true, c :: rest => dropBlanks (c != '\n') rest
  | false, c :: rest =>
    if isBlank c then dropBlanks false rest
    else if c == '#' then dropBlanks true rest
    else c :: rest

/-- In verbose mode, skips what may stand between the parts of a pattern. -/
def skipBlanks : Reader Unit := do
  if (← flags).verbose then
    modify fun s => { s with rest := dropBlanks false s.rest }

def advanceBlanks : Reader Unit := do
  advance
  skipBlanks

/-- Goes past the given text if it comes next. -/
def tryText (text : String) : Reader Bool := do
  let rest := (← get).rest
  if text.toList.isPrefixOf rest then
    modify ({ · with rest := rest.drop text.length })
    return true
  else return false

def expect (c : Char) : Reader Unit := do
  guard ((← current) == c)
  advance

end Reader

open Reader

/-! ## Numbers -/

def isHexDigit (c : Char) : Bool :=
  c.isDigit || ('a' ≤ c && c ≤ 'f') || ('A' ≤ c && c ≤ 'F')

/-- The scalar value that hexadecimal digits stand for. -/
def scalarOfHex (digits : List Char) : Reader Char := do
  let n := CodeSet.hexValue digits
  guard n.isValidChar
  return Char.ofNat n

/-- The digits from here on, in verbose mode with blanks between them. -/
def digits : (fuel : Nat) → Reader (List Char)
  | 0 => return []
  | fuel + 1 => do
    match ← peek with
    | some c =>
      if c.isDigit then
        advanceBlanks
        return c :: (← digits fuel)
      else return []
    | none => return []

/-- Skips blanks, which may surround a number in any mode. -/
def skipNumberBlanks : Reader Unit := do
  modify fun s => { s with rest := s.rest.dropWhile isBlank }
  skipBlanks
  modify fun s => { s with rest := s.rest.dropWhile isBlank }

/-- A decimal number of 32 bits, or none if there are no digits. -/
def decimal : Reader (Option Nat) := do
  modify fun s => { s with rest := s.rest.dropWhile isBlank }
  let ds ← digits (← get).rest.length
  skipNumberBlanks
  if ds.isEmpty then return none
  let n := ds.foldl (fun n c => n * 10 + (c.toNat - '0'.toNat)) 0
  guard (n < Nat.pow 2 32)
  return some n

/-- The digits up to the closing brace, each of which has to be hexadecimal. -/
def hexInBraces : (fuel : Nat) → Reader (List Char)
  | 0 => failure
  | fuel + 1 => do
    advanceBlanks
    let c ← current
    if c == '\x7d' then return []
    guard (isHexDigit c)
    return c :: (← hexInBraces fuel)

/-- Exactly `n + 1` hexadecimal digits. -/
def hexDigits : (n : Nat) → Reader (List Char)
  | 0 => do
    let c ← current
    guard (isHexDigit c)
    advanceBlanks
    return [c]
  | n + 1 => do
    let c ← current
    guard (isHexDigit c)
    advanceBlanks
    return c :: (← hexDigits n)

/-! ## Named sets -/

/--
The form in which names of properties are compared: ASCII letters in lower case, without blanks,
hyphens, underscores and a leading "is".
-/
def normalizeName (name : List Char) : String :=
  let (body, hadIs) :=
    match name with
    | i :: s :: rest =>
      if i.toLower == 'i' && s.toLower == 's' then (rest, true) else (name, false)
    | _ => (name, false)
  let kept := body.filter fun c => c.toNat ≤ 0x7F && c != ' ' && c != '_' && c != '-'
  let lower := String.ofList (kept.map Char.toLower)
  if hadIs && lower == "c" then "isc" else lower

def lookUpName (table : List (List String × CodeSet)) (name : String) : Option CodeSet :=
  (table.find? fun (names, _) => names.contains name).map (·.2)

/-- The code points of a general category, or of one of the sets that are named like one. -/
def categorySet (name : String) : Option CodeSet :=
  if name == "any" then some .all
  else if name == "ascii" then some (.range 0 0x7F)
  else if name == "assigned" then some Unicode.unassigned.complement
  else lookUpName Unicode.generalCategories name

/-- The set that a name alone stands for: a binary property, a general category or a script. -/
def namedSet (name : String) : Option CodeSet :=
  let isShortCategory := name == "cf" || name == "sc" || name == "lc"
  (if isShortCategory then none else lookUpName Unicode.binaryProperties name)
    <|> categorySet name <|> Unicode.script? name

/-- The set of the code points with the given value of a property. -/
def valueSet (property value : String) : Option CodeSet :=
  if property == "generalcategory" || property == "gc" then categorySet value
  else if property == "script" || property == "sc" then Unicode.script? value
  else if property == "scriptextensions" || property == "scx" then Unicode.scriptExtension? value
  else none

/-- Splits a text before and after the first place where a separator stands. -/
def splitAtText (separator : List Char) : List Char → Option (List Char × List Char)
  | [] => none
  | c :: rest =>
    if separator.isPrefixOf (c :: rest) then some ([], (c :: rest).drop separator.length)
    else (splitAtText separator rest).map fun (before, after) => (c :: before, after)

/-- The set that the text between the braces of a property stands for. -/
def propertySet (text : List Char) : Option CodeSet :=
  let split := splitAtText ['!', '='] text <|> splitAtText [':'] text <|> splitAtText ['='] text
  match split with
  | some (property, value) => valueSet (normalizeName property) (normalizeName value)
  | none => namedSet (normalizeName text)

/-- The ASCII classes, which are written `[:name:]` inside a class. -/
def asciiClasses : List (String × CodeSet) :=
  [("alnum", .ofText "30-39 41-5A 61-7A"), ("alpha", .ofText "41-5A 61-7A"),
   ("ascii", .ofText "0-7F"), ("blank", .ofText "9 20"), ("cntrl", .ofText "0-1F 7F"),
   ("digit", .ofText "30-39"), ("graph", .ofText "21-7E"), ("lower", .ofText "61-7A"),
   ("print", .ofText "20-7E"), ("punct", .ofText "21-2F 3A-40 5B-60 7B-7E"),
   ("space", .ofText "9-D 20"), ("upper", .ofText "41-5A"),
   ("word", .ofText "30-39 41-5A 5F 61-7A"),
   ("xdigit", .ofText "30-39 41-46 61-66")]

def asciiClass (name : String) : CodeSet :=
  ((asciiClasses.find? (·.1 == name)).map (·.2)).getD .empty

/-- The set of a one-letter class: `d` for digits, `s` for blanks, `w` for words. -/
def perlSet (unicode : Bool) (letter : Char) : CodeSet :=
  if unicode then
    if letter == 'd' then Unicode.decimalNumber
    else if letter == 's' then Unicode.whiteSpace
    else Unicode.word
  else asciiClass (if letter == 'd' then "digit" else if letter == 's' then "space" else "word")

/-- Closes a set under the case of ASCII letters. -/
def closeUnderAsciiCase (s : CodeSet) : CodeSet :=
  let letters := (List.range 26).flatMap fun i =>
    let (upper, lower) := (0x41 + i, 0x61 + i)
    if s.contains upper || s.contains lower then [(upper, upper), (lower, lower)] else []
  s.union (.ofRuns letters)

def foldCase (flags : Flags) (s : CodeSet) : CodeSet :=
  if !flags.ignoreCase then s
  else if flags.unicode then s.closeUnderCase
  else closeUnderAsciiCase s

/--
The final meaning of a set: letter case is ignored if the mode says so, then it is negated. Without
the Unicode mode a negated set would match parts of characters and is refused.
-/
def finishSet (flags : Flags) (negated : Bool) (s : CodeSet) : Reader CodeSet := do
  let folded := foldCase flags s
  if !negated then return folded
  guard flags.unicode
  return folded.complement

/-! ## Escapes and other primitives -/

/-- The smallest parts of a pattern. -/
inductive Primitive where
  /-- A character, `asByte` if it is written as a byte with two hexadecimal digits. -/
  | literal (c : Char) (asByte : Bool)
  | look (condition : Look)
  | set (s : CodeSet)

def escapeLetters : List (Char × Nat) :=
  [('a', 0x07), ('f', 0x0C), ('t', 0x09), ('n', 0x0A), ('r', 0x0D), ('v', 0x0B)]

/-- Whether a backslash makes the character stand for itself. -/
def isEscapable (c : Char) : Bool :=
  c.toNat ≤ 0x7F && !c.isAlphanum && c != '<' && c != '>'

/-- The letters of a name in braces, in verbose mode with blanks between them. -/
def edgeName : (fuel : Nat) → Reader (List Char)
  | 0 => return []
  | fuel + 1 => do
    match ← peek with
    | some c =>
      if c.isAlpha || c == '-' then
        advanceBlanks
        return c :: (← edgeName fuel)
      else return []
    | none => return []

/--
The special word edge in braces after `\b`, if there is one. Braces that hold no letters or hyphens
are a repetition instead and are left where they are.
-/
def specialEdge (unicode : Bool) : Reader (Option Look) := do
  if (← peek) != some '\x7b' then return none
  let before ← get
  advanceBlanks
  let c ← current
  if !(c.isAlpha || c == '-') then
    set before
    return none
  let name ← edgeName (← get).rest.length
  expect '\x7d'
  match String.ofList name with
  | "start" => return some (.wordStart unicode)
  | "end" => return some (.wordEnd unicode)
  | "start-half" => return some (.wordStartHalf unicode)
  | "end-half" => return some (.wordEndHalf unicode)
  | _ => failure

/-- A character written in hexadecimal with the given number of digits, or with any in braces. -/
def hexLiteral (count : Nat) : Reader Primitive := do
  advanceBlanks
  if (← current) == '\x7b' then
    let ds ← hexInBraces (← get).rest.length
    advanceBlanks
    guard !ds.isEmpty
    return .literal (← scalarOfHex ds) false
  else
    let ds ← hexDigits (count - 1)
    return .literal (← scalarOfHex ds) (count == 2)

/-- The text up to the closing brace of a property. -/
def propertyText : (fuel : Nat) → Reader (List Char)
  | 0 => failure
  | fuel + 1 => do
    advanceBlanks
    let c ← current
    if c == '\x7d' then return []
    return c :: (← propertyText fuel)

def propertyPrimitive (negated : Bool) : Reader Primitive := do
  advanceBlanks
  let c ← current
  let set ←
    if c == '\x7b' then do
      let text ← propertyText (← get).rest.length
      advance
      StateT.lift (propertySet text)
    else do
      guard (c != '\\')
      advanceBlanks
      StateT.lift (namedSet (normalizeName [c]))
  let flags ← flags
  guard flags.unicode
  return .set (← finishSet flags negated set)

/-- What follows a backslash. -/
def escape : Reader Primitive := do
  advance
  let c ← current
  let flags ← flags
  match c with
  | 'x' => hexLiteral 2
  | 'u' => hexLiteral 4
  | 'U' => hexLiteral 8
  | 'p' => propertyPrimitive false
  | 'P' => propertyPrimitive true
  | _ =>
    advance
    if c == 'd' || c == 's' || c == 'w' then return .set (perlSet flags.unicode c)
    if c == 'D' || c == 'S' || c == 'W' then
      guard flags.unicode
      return .set (perlSet true c.toLower).complement
    if isEscapable c then return .literal c false
    if let some code := escapeLetters.lookup c then return .literal (Char.ofNat code) false
    match c with
    | 'A' => return .look .textStart
    | 'z' => return .look .textEnd
    | 'b' =>
      let edge ← specialEdge flags.unicode
      return .look (edge.getD (.wordEdge flags.unicode))
    | 'B' => return .look (.notWordEdge flags.unicode)
    | '<' => return .look (.wordStart flags.unicode)
    | '>' => return .look (.wordEnd flags.unicode)
    | _ => failure

/-- The dot: any character, as a rule except a line end. -/
def dotSet (flags : Flags) : CodeSet :=
  if flags.dotMatchesNewline then .all
  else if flags.crlf then (CodeSet.ofText "A D").complement
  else (CodeSet.ofText "A").complement

def lineStartLook (flags : Flags) : Look :=
  if !flags.multiLine then .textStart else if flags.crlf then .crlfLineStart else .lineStart

def lineEndLook (flags : Flags) : Look :=
  if !flags.multiLine then .textEnd else if flags.crlf then .crlfLineEnd else .lineEnd

/-- What a primitive matches; without the Unicode mode, a byte beyond ASCII is no character. -/
def primitiveExpr : Primitive → Reader Expr
  | .literal c asByte => do
    let flags ← flags
    guard (flags.unicode || !asByte || c.toNat ≤ 0x7F)
    return .one (foldCase flags (.ofChar c))
  | .look condition => return .look condition
  | .set s => return .one s

/-- A part of a pattern outside groups, classes and repetitions. -/
def primitive : Reader Expr := do
  let flags ← flags
  match ← current with
  | '\\' => primitiveExpr (← escape)
  | '.' =>
    advance
    guard flags.unicode
    return .one (dotSet flags)
  | '^' =>
    advance
    return .look (lineStartLook flags)
  | '$' =>
    advance
    return .look (lineEndLook flags)
  | c =>
    advance
    primitiveExpr (.literal c false)

/-! ## Classes -/

/-- The items of a class read so far, up to the last operator. -/
structure ClassUnion where
  set : CodeSet := .empty
  count : Nat := 0
  depth : Nat := 0

def ClassUnion.push (u : ClassUnion) (s : CodeSet) (depth : Nat) : ClassUnion :=
  { set := u.set.union s, count := u.count + 1, depth := max u.depth depth }

def ClassUnion.itemDepth (u : ClassUnion) : Nat :=
  if 2 ≤ u.count then u.depth + 1 else u.depth

inductive ClassOperator where
  | intersection
  | difference
  | symmetricDifference

def ClassOperator.apply : ClassOperator → CodeSet → CodeSet → CodeSet
  | .intersection, s, t => s.inter t
  | .difference, s, t => s.diff t
  | .symmetricDifference, s, t => s.symmDiff t

/-- The operator at the given place. -/
def ClassOperator.at? : List Char → Option ClassOperator
  | '&' :: '&' :: _ => some .intersection
  | '-' :: '-' :: _ => some .difference
  | '~' :: '~' :: _ => some .symmetricDifference
  | _ => none

/-- The left operand of an operator whose right operand is still being read. -/
structure PendingOperation where
  operator : ClassOperator
  left : CodeSet
  depth : Nat

/-- Applies a pending operator to the items read since; operators bind equally, to the left. -/
def closeOperation (flags : Flags) (pending : Option PendingOperation) (u : ClassUnion) :
    CodeSet × Nat :=
  match pending with
  | none => (u.set, u.itemDepth)
  | some p =>
    (p.operator.apply (foldCase flags p.left) (foldCase flags u.set), max p.depth u.itemDepth + 1)

def classPrimitive : Reader Primitive := do
  let c ← current
  if c == '\\' then escape
  else
    advance
    return .literal c false

/-- A character as an end of a range. -/
def rangeEnd : Primitive → Reader Nat
  | .literal c asByte => do
    let unicode := (← flags).unicode
    guard (unicode || c.toNat ≤ 0x7F)
    guard (unicode || !asByte || c.toNat ≤ 0x7F)
    return c.toNat
  | _ => failure

def primitiveSet : Primitive → Reader CodeSet
  | .set s => return s
  | .look _ => failure
  | p@(.literal ..) => return .singleton (← rangeEnd p)

/--
The character after the current one that counts when a range is looked for. In verbose mode blanks
and one comment sign are passed over.
-/
def afterHyphen (flags : Flags) (rest : List Char) : Option Char :=
  let next := rest.drop 1
  if !flags.verbose then next.head?
  else
    match next.dropWhile isBlank with
    | '#' :: comment => (comment.dropWhile isBlank).head?
    | other => other.head?

/-- One character, set or range. -/
def classItem : Reader CodeSet := do
  let first ← classPrimitive
  skipBlanks
  let s ← get
  let next ← current
  let after := afterHyphen s.flags s.rest
  if next != '-' || after == some ']' || after == some '-' then primitiveSet first
  else
    advanceBlanks
    let _ ← current
    let last ← classPrimitive
    let (a, b) := (← rangeEnd first, ← rangeEnd last)
    guard (a ≤ b)
    return .range a b

/-- An ASCII class in brackets and colons, if that is what comes next; otherwise nothing is read. -/
def bracketedName : Reader (Option CodeSet) := do
  let before ← get
  match before.rest with
  | '[' :: ':' :: rest =>
    let (negated, body) := match rest with
      | '^' :: body => (true, body)
      | _ => (false, rest)
    let name := body.takeWhile (· != ':')
    match body.dropWhile (· != ':') with
    | ':' :: ']' :: after =>
      match asciiClasses.lookup (String.ofList name) with
      | some s =>
        set { before with rest := after }
        return some (← finishSet before.flags negated s)
      | none => return none
    | _ => return none
  | _ => return none

/--
The opening of a class: whether it is negated, and the literal hyphens and bracket after that.
-/
def classOpening : Reader (Bool × ClassUnion) := do
  advanceBlanks
  let negated := (← current) == '^'
  if negated then advanceBlanks
  let hyphens ← skipHyphens (← get).rest.length
  let c ← current
  if hyphens == 0 && c == ']' then
    advanceBlanks
    let _ ← current
    return (negated, { set := .ofChar ']', count := 1 })
  return (negated, { set := if hyphens == 0 then .empty else .ofChar '-', count := hyphens })
where
  skipHyphens : Nat → Reader Nat
    | 0 => return 0
    | fuel + 1 => do
      if (← current) == '-' then
        advanceBlanks
        return (← skipHyphens fuel) + 1
      else return 0

/-- A class from its opening bracket on, with its nesting. -/
def classFrom : (fuel : Nat) → Reader (CodeSet × Nat)
  | 0 => failure
  | fuel + 1 => do
    let (negated, opening) ← classOpening
    let (set, depth) ← items fuel none opening
    return (← finishSet (← flags) negated set, depth + 1)
where
  items : Nat → Option PendingOperation → ClassUnion → Reader (CodeSet × Nat)
    | 0, _, _ => failure
    | fuel + 1, pending, u => do
      skipBlanks
      let s ← get
      let c ← current
      if c == '[' then
        match ← bracketedName with
        | some named => items fuel pending (u.push named 0)
        | none =>
          let (negated, opening) ← classOpening
          let (set, depth) ← items fuel none opening
          items fuel pending (u.push (← finishSet s.flags negated set) (depth + 1))
      else if c == ']' then
        advance
        return closeOperation s.flags pending u
      else
        match ClassOperator.at? s.rest with
        | some operator =>
          let (left, depth) := closeOperation s.flags pending u
          modify ({ · with rest := s.rest.drop 2 })
          items fuel (some { operator, left, depth }) {}
        | none => items fuel pending (u.push (← classItem) 0)

/-! ## Groups -/

/-- Switches one mode on or off. -/
def Flags.switch (flags : Flags) (on : Bool) : Char → Option Flags
  | 'i' => some { flags with ignoreCase := on }
  | 'm' => some { flags with multiLine := on }
  | 's' => some { flags with dotMatchesNewline := on }
  | 'U' => some { flags with swapGreed := on }
  | 'u' => some { flags with unicode := on }
  | 'R' => some { flags with crlf := on }
  | 'x' => some { flags with verbose := on }
  | _ => none

/--
The modes up to a colon or closing parenthesis, which is left: each letter at most once, and at most
one hyphen, with a letter after it.
-/
def flagList : (fuel : Nat) → (seen : List Char) → (on : Bool) → Flags → Reader (List Char × Flags)
  | 0, _, _, _ => failure
  | fuel + 1, seen, on, flags => do
    let c ← current
    if c == ':' || c == ')' then
      guard (seen.head? != some '-')
      return (seen, flags)
    else
      guard !seen.contains c
      advance
      if c == '-' then flagList fuel (c :: seen) false flags
      else flagList fuel (c :: seen) on (← StateT.lift (flags.switch on c))

def isNameStart (c : Char) : Bool :=
  c == '_' || Unicode.alphabetic.containsChar c

def isNameChar (c : Char) : Bool :=
  c == '_' || c == '.' || c == '[' || c == ']' || Unicode.alphanumeric.containsChar c

/-- The name of a group up to its closing bracket; every name may be used once. -/
def groupName : Reader Unit := do
  let s ← get
  let name := s.rest.takeWhile (· != '>')
  guard (name.length < s.rest.length)
  guard (!name.isEmpty && name.all isNameChar && (name.head?.map isNameStart).getD false)
  guard !s.groupNames.contains name
  set { s with rest := s.rest.drop (name.length + 1), groupNames := name :: s.groupNames }

/-- What the opening of a group can be. -/
inductive Opening where
  | capture (index : Nat)
  | plain (inner : Flags)
  /-- Not a group but a change of modes for the rest of the group around it. -/
  | change (flags : Flags)

def nextGroup : Reader Opening := do
  let index := (← get).groups + 1
  modify ({ · with groups := index })
  return .capture index

/-- The opening of a group, from its parenthesis on. -/
def groupOpening : Reader Opening := do
  advanceBlanks
  for text in ["?=", "?!", "?<=", "?<!"] do
    guard !(← tryText text)
  if ← tryText "?P<" then
    let opening ← nextGroup
    groupName
    return opening
  if ← tryText "?<" then
    let opening ← nextGroup
    groupName
    return opening
  if ← tryText "?" then
    let s ← get
    let (seen, flags) ← flagList s.rest.length [] true s.flags
    let c ← current
    advance
    if c == ')' then
      guard !seen.isEmpty
      return .change flags
    else return .plain flags
  nextGroup

/-! ## Patterns -/

/-- A part of a sequence; a change of modes cannot be repeated. -/
structure Item where
  piece : Piece
  repeatable : Bool := true

def sequencePiece (reversed : List Item) : Piece :=
  match reversed with
  | [] => { expr := .empty }
  | [item] => item.piece
  | items =>
    { expr := .seqs (items.reverse.map (·.piece.expr))
      depth := (items.map (·.piece.depth)).foldl max 0 + 1 }

def alternativesPiece (reversed : List Piece) : Piece :=
  match reversed with
  | [piece] => piece
  | pieces =>
    { expr := .alts (pieces.reverse.map (·.expr))
      depth := (pieces.map (·.depth)).foldl max 0 + 1 }

/-- Repeats the last part of a sequence. -/
def repeatLast (flags : Flags) (count : Rounds) (lazyMark : Bool) : List Item → Reader (List Item)
  | [] => failure
  | last :: before => do
    guard last.repeatable
    let greedy := lazyMark == flags.swapGreed
    let piece : Piece :=
      { expr := .repeated last.piece.expr count greedy, depth := last.piece.depth + 1 }
    return { piece } :: before

/-- The bounds of a counted repetition, from its opening brace to its closing one. -/
def countedRounds : Reader Rounds := do
  advanceBlanks
  let _ ← current
  let least ← decimal
  if (← current) == ',' then
    advanceBlanks
    if (← current) == '\x7d' then
      advanceBlanks
      return ⟨← StateT.lift least, none⟩
    else
      let least ← StateT.lift least
      let most ← StateT.lift (← decimal)
      expect '\x7d'
      skipBlanks
      guard (least ≤ most)
      return ⟨least, some most⟩
  else
    let count ← StateT.lift least
    expect '\x7d'
    skipBlanks
    return ⟨count, some count⟩

/-- The bounds that a repetition sign stands for. -/
def signRounds : Char → Option Rounds
  | '?' => some ⟨0, some 1⟩
  | '*' => some ⟨0, none⟩
  | '+' => some ⟨1, none⟩
  | _ => none

/-- Goes past a question mark that makes a repetition prefer fewer rounds. -/
def lazyMark : Reader Bool := tryText "?"

/--
Alternatives up to the end of the pattern or a closing parenthesis, which is left. `done` are the
alternatives before, `items` the parts of the current one, both in reverse.
-/
def alternatives : (fuel : Nat) → (done : List Piece) → (items : List Item) → Reader Piece
  | 0, _, _ => failure
  | fuel + 1, done, items => do
    skipBlanks
    let flags ← flags
    match ← peek with
    | none => return alternativesPiece (sequencePiece items :: done)
    | some ')' => return alternativesPiece (sequencePiece items :: done)
    | some '|' =>
      advance
      alternatives fuel (sequencePiece items :: done) []
    | some '(' =>
      match ← groupOpening with
      | .change flags =>
        setFlags flags
        alternatives fuel done ({ piece := { expr := .empty }, repeatable := false } :: items)
      | .capture index =>
        let inner ← alternatives fuel [] []
        expect ')'
        setFlags flags
        let piece : Piece := { expr := .group index inner.expr, depth := inner.depth + 1 }
        alternatives fuel done ({ piece } :: items)
      | .plain innerFlags =>
        setFlags innerFlags
        let inner ← alternatives fuel [] []
        expect ')'
        setFlags flags
        let piece : Piece := { inner with depth := inner.depth + 1 }
        alternatives fuel done ({ piece } :: items)
    | some '[' =>
      let (set, depth) ← classFrom fuel
      alternatives fuel done ({ piece := { expr := .one set, depth } } :: items)
    | some '\x7b' =>
      let count ← countedRounds
      alternatives fuel done (← repeatLast flags count (← lazyMark) items)
    | some c =>
      match signRounds c with
      | some count =>
        advance
        alternatives fuel done (← repeatLast flags count (← lazyMark) items)
      | none => alternatives fuel done ({ piece := { expr := ← primitive } } :: items)

/-- A pattern's expression and the number of its capture groups. -/
structure Pattern where
  expr : Expr
  groups : Nat

/-- Reads a whole pattern. -/
def Pattern.parse (ignoreCase : Bool) (source : List Char) : Option Pattern := do
  let start : Cursor := { rest := source, flags := { ignoreCase } }
  let (piece, s) ← (alternatives (source.length + 1) [] []).run start
  guard (s.rest.isEmpty && piece.depth ≤ depthLimit)
  return { expr := piece.expr, groups := s.groups }

end ShowScout.Regex
