import ShowScout.Json.Value

/-!
# Writing JSON

The compact form has no blanks; the pretty form puts every item and member on a line of its own,
indented by two blanks per level.
-/

namespace ShowScout.Json

/-! ## Numbers -/

/-- The decimal digits of a natural number. -/
def natText (n : Nat) : List Char := Nat.toDigits 10 n

/-- How the text of a floating point number is laid out. -/
structure FloatFormat where
  /-- The least and greatest power of the leading digit that is written without an exponent. -/
  leastPlain : Int
  greatestPlain : Int
  /-- The sign of an exponent from zero on. -/
  plus : List Char

/-- Numbers from `0.00001` up to `10 ^ 16` are plain, and a positive exponent has a sign. -/
def floatFormat : FloatFormat :=
  { leastPlain := -5, greatestPlain := 15, plus := ['+'] }

/-- The decimal point after the first `whole` digits; a missing part is written as zero. -/
def pointAfter (whole : Int) (digits : List Char) : List Char :=
  if whole ≤ 0 then '0' :: '.' :: (List.replicate (-whole).toNat '0' ++ digits)
  else
    let whole := whole.toNat
    if digits.length ≤ whole then digits ++ List.replicate (whole - digits.length) '0' ++ ['.', '0']
    else digits.take whole ++ '.' :: digits.drop whole

def exponentText (f : FloatFormat) (power : Int) : List Char :=
  'e' :: if power < 0 then '-' :: natText power.natAbs else f.plus ++ natText power.natAbs

/-- The text of a floating point number with its shortest digits. -/
def floatText (f : FloatFormat) (x : Binary64) : List Char :=
  let sign := if x.negative then ['-'] else []
  let d := x.shortest
  let digits := natText d.digits
  let lead : Int := d.power + digits.length - 1
  sign ++
    if f.leastPlain ≤ lead && lead ≤ f.greatestPlain then pointAfter (lead + 1) digits
    else
      let significand :=
        match digits with
        | first :: more => if more.isEmpty then [first] else first :: '.' :: more
        | [] => []
      significand ++ exponentText f lead

def Number.text : Number → List Char
  | .natural n => natText n
  | .negative n => '-' :: natText n
  | .float x => floatText floatFormat x

/-! ## Strings -/

def hexDigit (n : Nat) : Char := Nat.digitChar n

/-- A character inside a string: quotes, backslashes and control characters are escaped. -/
def escapeChar (c : Char) : List Char :=
  if c = '"' then ['\\', '"']
  else if c = '\\' then ['\\', '\\']
  else if c = '\x08' then ['\\', 'b']
  else if c = '\x0c' then ['\\', 'f']
  else if c = '\n' then ['\\', 'n']
  else if c = '\r' then ['\\', 'r']
  else if c = '\t' then ['\\', 't']
  else if c.toNat < 0x20 then
    ['\\', 'u', '0', '0', hexDigit (c.toNat / 16), hexDigit (c.toNat % 16)]
  else [c]

def stringText (s : String) : List Char :=
  '"' :: (s.toList.flatMap escapeChar ++ ['"'])

/-! ## Documents -/

/-- How the parts of lists and objects are set apart. -/
structure Layout where
  /-- What stands in front of a part at the given level of nesting. -/
  gap : (level : Nat) → List Char
  colon : List Char

def Layout.compact : Layout :=
  { gap := fun _ => [], colon := [':'] }

def Layout.pretty : Layout :=
  { gap := fun level => '\n' :: List.replicate (2 * level) ' ', colon := [':', ' '] }

mutual

/-- The text of a value that stands at the given level of nesting. -/
def Value.render (f : Layout) (level : Nat) : Value → List Char
  | .null => ['n', 'u', 'l', 'l']
  | .bool true => ['t', 'r', 'u', 'e']
  | .bool false => ['f', 'a', 'l', 's', 'e']
  | .number n => n.text
  | .text s => stringText s
  | .list [] => ['[', ']']
  | .list (item :: items) =>
    '[' :: (f.gap (level + 1) ++ item.render f (level + 1) ++
      renderItems f (level + 1) items ++ f.gap level ++ [']'])
  | .object [] => ['\x7b', '\x7d']
  | .object ((key, value) :: members) =>
    '\x7b' :: (f.gap (level + 1) ++ stringText key ++ f.colon ++ value.render f (level + 1) ++
      renderMembers f (level + 1) members ++ f.gap level ++ ['\x7d'])

/-- The further items of a list, each after a comma. -/
def renderItems (f : Layout) (level : Nat) : List Value → List Char
  | [] => []
  | item :: items => ',' :: (f.gap level ++ item.render f level ++ renderItems f level items)

/-- The further members of an object, each after a comma. -/
def renderMembers (f : Layout) (level : Nat) : List (String × Value) → List Char
  | [] => []
  | (key, value) :: members =>
    ',' :: (f.gap level ++ stringText key ++ f.colon ++ value.render f level ++
      renderMembers f level members)

end

def Value.compact (v : Value) : String := .ofList (v.render .compact 0)

def Value.pretty (v : Value) : String := .ofList (v.render .pretty 0)

end ShowScout.Json
