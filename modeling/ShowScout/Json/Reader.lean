import ShowScout.Json.Fault

/-!
# Readers of JSON

Reads values of free form, strings, lists and records with known fields from a text. Every reader
takes a value off the front of the text and returns the rest, or describes the first fault it meets.

A document may be nested up to a limit; every reader is told how many levels are left to it.
-/

namespace ShowScout.Json

/-- Reads a value, given the levels of nesting that are left and the text. -/
abbrev Reader (α : Type) := (levels : Nat) → List Char → Except Fault (α × List Char)

/-- The greatest nesting of a document. -/
def levelLimit : Nat := 127

def isBlank (c : Char) : Bool :=
  c = ' ' || c = '\n' || c = '\t' || c = '\r'

def skipBlanks (s : List Char) : List Char :=
  s.dropWhile isBlank

/-! ## Words -/

/-- Goes past the rest of a word such as `null`. -/
def word : (expected : List Char) → List Char → Except Fault (List Char)
  | [], s => .ok s
  | _ :: _, [] => .error (.here .endInValue [])
  | e :: expected, c :: s => if c = e then word expected s else .error (.here .expectedWord s)

/-! ## Numbers -/

def digitValue (c : Char) : Nat := c.toNat - '0'.toNat

/-- The powers of ten that a floating point number is scaled by at once. -/
def greatestTenPower : Nat := 308

/-- A power of ten as a floating point number. -/
def tenPower (n : Nat) : Binary64 :=
  (Binary64.ofNat (Nat.pow 10 n)).getD (.zero false)

/--
Scales a number by a power of ten, in one rounded step if the power is small and in steps of
`10 ^ 308` while it is not. None if the result is too large.
-/
def scaleByTens (x : Binary64) (power : Int) : Option Binary64 :=
  if power.natAbs ≤ greatestTenPower then
    if 0 ≤ power then x.mul (tenPower power.natAbs) else x.div (tenPower power.natAbs)
  else if x.isZero then some x
  else if 0 ≤ power then none
  else do scaleByTens (← x.div (tenPower greatestTenPower)) (power + greatestTenPower)
termination_by power.natAbs
decreasing_by simp only [greatestTenPower] at *; omega

/-- The number `± significand * 10 ^ power`, read up to the given rest. -/
def floatOf (negative : Bool) (significand : Nat) (power : Int) (rest : List Char) :
    Except Fault (Number × List Char) :=
  match (Binary64.ofNat significand).bind (scaleByTens · power) with
  | some x => .ok (.float { x with negative }, rest)
  | none => .error (.here .numberOutOfRange rest)

def wordSize : Nat := Nat.pow 2 64
def exponentBound : Nat := Nat.pow 2 31

/--
The digits of an exponent after the first one; one beyond 31 bits makes the number 0 or too large.
-/
def exponentDigits (negative : Bool) (significand : Nat) (power : Int) (upwards : Bool) (e : Nat) :
    List Char → Except Fault (Number × List Char)
  | [] => finish e []
  | c :: s =>
    if c.isDigit then
      let e' := e * 10 + digitValue c
      if e' < exponentBound then exponentDigits negative significand power upwards e' s
      else if significand ≠ 0 && upwards then .error (.here .numberOutOfRange s)
      else .ok (.float (.zero negative), s.dropWhile Char.isDigit)
    else finish e (c :: s)
where
  finish (e : Nat) (rest : List Char) : Except Fault (Number × List Char) :=
    floatOf negative significand (if upwards then power + e else power - e) rest

/-- The exponent of a number, after its letter. -/
def exponentPart (negative : Bool) (significand : Nat) (power : Int) (s : List Char) :
    Except Fault (Number × List Char) :=
  let (upwards, s) := match s with
    | '+' :: s => (true, s)
    | '-' :: s => (false, s)
    | s => (true, s)
  match s with
  | [] => .error (.here .endInValue [])
  | c :: s =>
    if c.isDigit then exponentDigits negative significand power upwards (digitValue c) s
    else .error (.here .invalidNumber s)

/-- What may follow the digits of a fraction. -/
def afterFraction (negative : Bool) (significand : Nat) (power : Int) (s : List Char) :
    Except Fault (Number × List Char) :=
  match s with
  | 'e' :: s => exponentPart negative significand power s
  | 'E' :: s => exponentPart negative significand power s
  | s => floatOf negative significand power s

/-- The digits of a fraction. Those that no longer fit 64 bits are dropped. -/
def fractionDigits (negative : Bool) (significand : Nat) (power : Int) (any : Bool) :
    List Char → Except Fault (Number × List Char)
  | [] =>
    if any then afterFraction negative significand power []
    else .error (.atNext .endInValue [])
  | c :: s =>
    if c.isDigit then
      let significand' := significand * 10 + digitValue c
      if significand' < wordSize then fractionDigits negative significand' (power - 1) true s
      else afterFraction negative significand power (s.dropWhile Char.isDigit)
    else if any then afterFraction negative significand power (c :: s)
    else .error (.atNext .invalidNumber (c :: s))

/-- The digits of an integer that no longer fit 64 bits; they only raise its power. -/
def longInteger (negative : Bool) (significand : Nat) (power : Int) :
    List Char → Except Fault (Number × List Char)
  | '.' :: s => fractionDigits negative significand power false s
  | c :: s =>
    if c.isDigit then longInteger negative significand (power + 1) s
    else afterFraction negative significand power (c :: s)
  | [] => floatOf negative significand power []

/-- The number that an integer stands for. Minus zero is a floating point number. -/
def integerOf (negative : Bool) (n : Nat) : Number :=
  if !negative then .natural n
  else if n = 0 then .float (.zero true)
  else if n ≤ Nat.pow 2 63 then .negative n
  else .float (((Binary64.ofNat n).map fun x => { x with negative := true }).getD (.zero true))

/-- What may follow the digits of an integer. -/
def afterInteger (negative : Bool) (n : Nat) (s : List Char) : Except Fault (Number × List Char) :=
  match s with
  | '.' :: s => fractionDigits negative n 0 false s
  | 'e' :: s => exponentPart negative n 0 s
  | 'E' :: s => exponentPart negative n 0 s
  | s => .ok (integerOf negative n, s)

/-- The digits of an integer after the first one. -/
def integerDigits (negative : Bool) (n : Nat) : List Char → Except Fault (Number × List Char)
  | [] => afterInteger negative n []
  | c :: s =>
    if c.isDigit then
      let n' := n * 10 + digitValue c
      if n' < wordSize then integerDigits negative n' s else longInteger negative n 0 (c :: s)
    else afterInteger negative n (c :: s)

/-- A number after its sign. A zero may not be followed by digits. -/
def number (negative : Bool) : List Char → Except Fault (Number × List Char)
  | [] => .error (.here .endInValue [])
  | c :: s =>
    if c = '0' then
      if (s.head?.map Char.isDigit).getD false then .error (.atNext .invalidNumber s)
      else afterInteger negative 0 s
    else if c.isDigit then integerDigits negative (digitValue c) s
    else .error (.here .invalidNumber s)

/-! ## Strings -/

def hexValue? (c : Char) : Option Nat :=
  if c.isDigit then some (c.toNat - '0'.toNat)
  else if 'a' ≤ c && c ≤ 'f' then some (c.toNat - 'a'.toNat + 10)
  else if 'A' ≤ c && c ≤ 'F' then some (c.toNat - 'A'.toNat + 10)
  else none

/-- The four hexadecimal digits of an escape. -/
def hexEscape (s : List Char) : Except Fault (Nat × List Char) :=
  let fault : Fault :=
    if byteLength s < 4 then .here .endInString []
    else { cause := .invalidEscape, rest := s, beyond := 4 }
  match s with
  | a :: b :: c :: d :: rest =>
    match hexValue? a, hexValue? b, hexValue? c, hexValue? d with
    | some a, some b, some c, some d => .ok (a * 4096 + b * 256 + c * 16 + d, rest)
    | _, _, _, _ => .error fault
  | _ => .error fault

def isHighSurrogate (n : Nat) : Bool := 0xD800 ≤ n && n ≤ 0xDBFF
def isLowSurrogate (n : Nat) : Bool := 0xDC00 ≤ n && n ≤ 0xDFFF

/-- Goes past the given character inside an escape. -/
def escapeSign (c : Char) : List Char → Except Fault (List Char)
  | [] => .error (.here .endInString [])
  | d :: s => if d = c then .ok s else .error (.here .unfinishedSurrogate s)

/-- A character given by its code unit, or by two if it takes a pair of surrogates. -/
def unicodeEscape (s : List Char) : Except Fault (Char × List Char) := do
  let (n, s) ← hexEscape s
  if isLowSurrogate n then .error (.here .loneSurrogate s)
  else if isHighSurrogate n then
    let s ← escapeSign '\\' s
    let s ← escapeSign 'u' s
    let (m, s) ← hexEscape s
    if isLowSurrogate m then
      return (Char.ofNat ((n - 0xD800) * 0x400 + (m - 0xDC00) + 0x10000), s)
    else .error (.here .loneSurrogate s)
  else return (Char.ofNat n, s)

/-- What follows a backslash. -/
def escape : List Char → Except Fault (Char × List Char)
  | [] => .error (.here .endInString [])
  | c :: s =>
    match c with
    | '"' => .ok ('"', s)
    | '\\' => .ok ('\\', s)
    | '/' => .ok ('/', s)
    | 'b' => .ok ('\x08', s)
    | 'f' => .ok ('\x0c', s)
    | 'n' => .ok ('\n', s)
    | 'r' => .ok ('\r', s)
    | 't' => .ok ('\t', s)
    | 'u' => unicodeEscape s
    | _ => .error (.here .invalidEscape s)

/--
The characters of a string up to its closing quote; `fuel` is at least the length of the text.
-/
def stringChars : (fuel : Nat) → List Char → Except Fault (List Char × List Char)
  | 0, _ => .error (.here .endInString [])
  | _, [] => .error (.here .endInString [])
  | fuel + 1, c :: s =>
    if c = '"' then .ok ([], s)
    else if c = '\\' then do
      let (e, s) ← escape s
      let (cs, s) ← stringChars fuel s
      return (e :: cs, s)
    else if c.toNat < 0x20 then .error (.here .controlCharacter s)
    else do
      let (cs, s) ← stringChars fuel s
      return (c :: cs, s)

/-- A string after its opening quote. -/
def stringBody (s : List Char) : Except Fault (String × List Char) := do
  let (cs, s) ← stringChars (s.length + 1) s
  return (.ofList cs, s)

/-! ## Type errors -/

/-- The fault of a text that does not start with what is expected; blanks are skipped already. -/
def unexpected (expected : String) (s : List Char) : Fault :=
  let wrong (found : Found) (rest : List Char) : Fault := .here (.wrongType found expected) rest
  let wordFault (found : Found) (letters : List Char) (rest : List Char) : Fault :=
    match word letters rest with
    | .ok rest => wrong found rest
    | .error fault => fault
  let numberFault (negative : Bool) (rest : List Char) : Fault :=
    match number negative rest with
    | .ok (n, rest) => wrong (.number n) rest
    | .error fault => fault
  match s with
  | [] => .atNext .expectedValue []
  | c :: rest =>
    if c = 'n' then wordFault .null ['u', 'l', 'l'] rest
    else if c = 't' then wordFault (.bool true) ['r', 'u', 'e'] rest
    else if c = 'f' then wordFault (.bool false) ['a', 'l', 's', 'e'] rest
    else if c = '-' then numberFault true rest
    else if c.isDigit then numberFault false (c :: rest)
    else if c = '"' then
      match stringBody rest with
      | .ok (found, rest) => wrong (.text found) rest
      | .error fault => fault
    else if c = '[' then wrong .list (c :: rest)
    else if c = '\x7b' then wrong .object (c :: rest)
    else .atNext .expectedValue (c :: rest)

/-! ## Simple values -/

def text : Reader String := fun _ s =>
  match skipBlanks s with
  | [] => .error (.atNext .endInValue [])
  | c :: rest => if c = '"' then stringBody rest else .error (unexpected "a string" (c :: rest))

def flag : Reader Bool := fun _ s =>
  match skipBlanks s with
  | [] => .error (.atNext .endInValue [])
  | c :: rest =>
    if c = 't' then return (true, ← word ['r', 'u', 'e'] rest)
    else if c = 'f' then return (false, ← word ['a', 'l', 's', 'e'] rest)
    else .error (unexpected "a boolean" (c :: rest))

/-- A value that may be `null` instead. -/
def nullable {α : Type} (r : Reader α) : Reader (Option α) := fun levels s =>
  match skipBlanks s with
  | 'n' :: rest => do return (none, ← word ['u', 'l', 'l'] rest)
  | s => do
    let (x, s) ← r levels s
    return (some x, s)

/-! ## Lists -/

/-- The items of a list up to its closing bracket; `fuel` is at least the length of the text. -/
def itemsFrom {α : Type} (item : List Char → Except Fault (α × List Char)) :
    (fuel : Nat) → (isFirst : Bool) → List Char → Except Fault (List α × List Char)
  | 0, _, _ => .error (.atNext .endInList [])
  | fuel + 1, isFirst, s =>
    match skipBlanks s with
    | [] => .error (.atNext .endInList [])
    | c :: rest =>
      if c = ']' then .ok ([], rest)
      else if isFirst then more fuel (c :: rest)
      else if c = ',' then
        match skipBlanks rest with
        | [] => .error (.atNext .endInValue [])
        | d :: rest =>
          if d = ']' then .error (.atNext .trailingComma (d :: rest)) else more fuel (d :: rest)
      else .error (.atNext .expectedCommaInList (c :: rest))
where
  more (fuel : Nat) (s : List Char) : Except Fault (List α × List Char) := do
    let (x, s) ← item s
    let (xs, s) ← itemsFrom item fuel false s
    return (x :: xs, s)

def listItems {α : Type} (item : List Char → Except Fault (α × List Char)) (s : List Char) :
    Except Fault (List α × List Char) :=
  itemsFrom item (s.length + 1) true s

/-- A list of values of one kind. -/
def listOf {α : Type} (item : Reader α) : Reader (List α) := fun levels s =>
  match skipBlanks s with
  | [] => .error (.atNext .endInValue [])
  | c :: rest =>
    if c = '[' then
      match levels with
      | 0 => .error (.atNext .nestedTooDeeply (c :: rest))
      | levels + 1 => listItems (item levels) rest
    else .error (unexpected "a sequence" (c :: rest))

/-! ## Objects -/

/-- The key of the next member, or none at the closing brace. -/
def nextKey (isFirst : Bool) (s : List Char) : Except Fault (Option String × List Char) :=
  let key (rest : List Char) : Except Fault (Option String × List Char) := do
    let (k, s) ← stringBody rest
    return (some k, s)
  match skipBlanks s with
  | [] => .error (.atNext .endInObject [])
  | c :: rest =>
    if c = '\x7d' then .ok (none, rest)
    else if isFirst then
      if c = '"' then key rest else .error (.atNext .keyNotString (c :: rest))
    else if c = ',' then
      match skipBlanks rest with
      | [] => .error (.atNext .endInValue [])
      | d :: rest =>
        if d = '"' then key rest
        else if d = '\x7d' then .error (.atNext .trailingComma (d :: rest))
        else .error (.atNext .keyNotString (d :: rest))
    else .error (.atNext .expectedCommaInObject (c :: rest))

/-- Goes past the colon after a key. -/
def colon (s : List Char) : Except Fault (List Char) :=
  match skipBlanks s with
  | [] => .error (.atNext .endInObject [])
  | c :: rest => if c = ':' then .ok rest else .error (.atNext .expectedColon (c :: rest))

/--
The members of an object up to its closing brace. What becomes of a member is up to `member`, which
is given the key, what has been collected so far and the text after the key.
-/
def membersFrom {σ : Type} (member : String → σ → List Char → Except Fault (σ × List Char)) :
    (fuel : Nat) → (isFirst : Bool) → σ → List Char → Except Fault (σ × List Char)
  | 0, _, _, _ => .error (.atNext .endInObject [])
  | fuel + 1, isFirst, collected, s => do
    let (key, s) ← nextKey isFirst s
    match key with
    | none => return (collected, s)
    | some key =>
      let (collected, s) ← member key collected s
      membersFrom member fuel false collected s

def objectMembers {σ : Type} (member : String → σ → List Char → Except Fault (σ × List Char)) (start : σ)
    (s : List Char) : Except Fault (σ × List Char) :=
  membersFrom member (s.length + 1) true start s

/-! ## Values of free form -/

/-- The value that starts with the given character, if it is neither a list nor an object. -/
def scalar (c : Char) (rest : List Char) : Except Fault (Value × List Char) :=
  if c = 'n' then return (.null, ← word ['u', 'l', 'l'] rest)
  else if c = 't' then return (.bool true, ← word ['r', 'u', 'e'] rest)
  else if c = 'f' then return (.bool false, ← word ['a', 'l', 's', 'e'] rest)
  else if c = '-' then do
    let (n, s) ← number true rest
    return (.number n, s)
  else if c.isDigit then do
    let (n, s) ← number false (c :: rest)
    return (.number n, s)
  else if c = '"' then do
    let (x, s) ← stringBody rest
    return (.text x, s)
  else .error (.atNext .expectedValue (c :: rest))

/-- Any value. Of the members of an object with one key the last counts. -/
def anything : Reader Value
  | levels, s =>
    match skipBlanks s with
    | [] => .error (.atNext .endInValue [])
    | c :: rest =>
      if c = '[' then
        match levels with
        | 0 => .error (.atNext .nestedTooDeeply (c :: rest))
        | levels + 1 => do
          let (items, s) ← listItems (anything levels) rest
          return (.list items, s)
      else if c = '\x7b' then
        match levels with
        | 0 => .error (.atNext .nestedTooDeeply (c :: rest))
        | levels + 1 => do
          let member (key : String) (members : Members) (s : List Char) :
              Except Fault (Members × List Char) := do
            let (value, s) ← anything levels (← colon s)
            return (members.insert key value, s)
          let (members, s) ← objectMembers member [] rest
          return (.object members, s)
      else scalar c rest

/-! ## Records -/

/-- A field of a record that is put together in a `σ`. -/
structure Field (σ : Type) where
  /-- Whether the field has been given already. -/
  isGiven : σ → Bool
  read : Reader (σ → σ)

/-- The field that a reader and a setter describe; it has been given once it has a value. -/
def Field.ofSetter {σ α : Type} (get : σ → Option α) (r : Reader α) (set : α → σ → σ) :
    Field σ where
  isGiven d := (get d).isSome
  read levels s := do
    let (x, s) ← r levels s
    return (set x, s)

/-- A kind of object with known fields, and a place for members with other keys. -/
structure Record (σ : Type) where
  title : String
  start : σ
  field? : String → Option (Field σ)
  other : String → Value → σ → σ

/-- Where a repeated key is noticed: after it, or after the end of the object if that follows. -/
def afterRepeatedKey (s : List Char) : List Char :=
  match skipBlanks s with
  | '\x7d' :: rest => rest
  | s => s

/-- Reads a member of a record. A known field may be given once. -/
def Record.member {σ : Type} (r : Record σ) (levels : Nat) (key : String) (collected : σ)
    (s : List Char) : Except Fault (σ × List Char) :=
  match r.field? key with
  | some field =>
    if field.isGiven collected then .error (.here (.duplicateField key) (afterRepeatedKey s))
    else do
      let (set, s) ← field.read levels (← colon s)
      return (set collected, s)
  | none => do
    let (value, s) ← anything levels (← colon s)
    return (r.other key value collected, s)

def record {σ : Type} (r : Record σ) : Reader σ := fun levels s =>
  match skipBlanks s with
  | [] => .error (.atNext .endInValue [])
  | c :: rest =>
    if c = '\x7b' then
      match levels with
      | 0 => .error (.atNext .nestedTooDeeply (c :: rest))
      | levels + 1 => objectMembers (r.member levels) r.start rest
    else .error (unexpected ("struct " ++ r.title) (c :: rest))

/-! ## Documents -/

/-- Reads a whole document: one value, with nothing but blanks around it. -/
def readDocument {α : Type} (r : Reader α) (source : String) : Except Error α :=
  let s := source.toList
  match r levelLimit s with
  | .error fault => .error (fault.report s)
  | .ok (x, rest) =>
    match skipBlanks rest with
    | [] => .ok x
    | rest => .error ((Fault.atNext .trailingText rest).report s)

end ShowScout.Json
