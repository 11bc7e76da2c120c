import ShowScout.Web.Percent

/-!
# Numeric addresses of hosts

Addresses of four bytes, which have several written forms, and of eight words, which may leave out a
run of zeros. Both are shown in one form.
-/

namespace ShowScout.Web

/-- The number that digits of a base stand for; `none` if there is a character that is no digit. -/
def digitsValue? (base : Nat) (digits : List Char) : Option Nat :=
  digits.foldlM (fun n c => do
    let d ← hexDigit? c
    guard (d < base)
    return n * base + d) 0

/-! ## Four bytes -/

/--
A number in decimal, in octal after `0`, or in hexadecimal after `0x`, which may have no digits.
-/
def ipNumber? : List Char → Option Nat
  | [] => none
  | '0' :: 'x' :: digits => digitsValue? 16 digits
  | '0' :: 'X' :: digits => digitsValue? 16 digits
  | '0' :: d :: digits => digitsValue? 8 (d :: digits)
  | digits => digitsValue? 10 digits

/-- The parts of a name between its dots; one dot at the end does not count. -/
def dottedParts (s : List Char) : List (List Char) :=
  let parts := s.splitOn '.'
  if parts.length > 1 && parts.getLast? == some [] then parts.dropLast else parts

/-- Whether the last part of a name is a number, so that the name can only be a numeric address. -/
def endsInNumber (s : List Char) : Bool :=
  match (dottedParts s).getLast? with
  | some part => (!part.isEmpty && part.all Char.isDigit) || (ipNumber? part).isSome
  | none => false

/-- The address of parts each but the last of which is one byte, the last one filling the rest. -/
def ipv4OfNumbers? : List Nat → Option Nat
  | [] => none
  | numbers@(_ :: _) =>
    let bytes := numbers.dropLast
    let last := numbers.getLastD 0
    if numbers.length ≤ 4 && bytes.all (· < 256) && last < Nat.pow 256 (4 - bytes.length) then
      some (bytes.foldl (fun n b => n * 256 + b) 0 * Nat.pow 256 (4 - bytes.length) + last)
    else none

def ipv4? (s : List Char) : Option Nat := do
  ipv4OfNumbers? (← (dottedParts s).mapM ipNumber?)

def decimal (n : Nat) : List Char :=
  Nat.toDigits 10 n

/-- Four bytes in decimal. -/
def ipv4Text (address : Nat) : List Char :=
  List.intercalate ['.']
    [decimal (address / 16777216), decimal (address / 65536 % 256), decimal (address / 256 % 256),
      decimal (address % 256)]

/-! ## Eight words -/

/-- One to four hexadecimal digits. -/
def word? (s : List Char) : Option Nat :=
  if s.isEmpty || s.length > 4 then none else digitsValue? 16 s

/-- A byte in decimal without superfluous zeros. -/
def byte? (s : List Char) : Option Nat := do
  guard (!s.isEmpty && (s.length == 1 || s.head? != some '0'))
  let n ← digitsValue? 10 s
  guard (n < 256)
  return n

/-- Two words that are written as four bytes. -/
def wordsOfBytes? (s : List Char) : Option (List Nat) := do
  match ← (s.splitOn '.').mapM byte? with
  | [a, b, c, d] => return [a * 256 + b, c * 256 + d]
  | _ => none

/--
The words of parts between colons. The last part may be four bytes where `allowBytes` says so.
-/
def wordsOfParts? (allowBytes : Bool) : List (List Char) → Option (List Nat)
  | [] => some []
  | [part] => if allowBytes && part.contains '.' then wordsOfBytes? part else ([·]) <$> word? part
  | part :: rest => do return (← word? part) :: (← wordsOfParts? allowBytes rest)

def words? (allowBytes : Bool) (s : List Char) : Option (List Nat) :=
  if s.isEmpty then some [] else wordsOfParts? allowBytes (s.splitOn ':')

/-- The text before the first double colon and the text after it. -/
def splitDoubleColon? : List Char → Option (List Char × List Char)
  | ':' :: ':' :: rest => some ([], rest)
  | c :: rest => (splitDoubleColon? rest).map fun (before, after) => (c :: before, after)
  | [] => none

/-- Reads eight words. A double colon stands for the zeros, at least one, that are missing. -/
def ipv6? (s : List Char) : Option (List Nat) :=
  match splitDoubleColon? s with
  | none => do
    let words ← words? true s
    guard (words.length == 8)
    return words
  | some (before, after) => do
    let before ← words? false before
    let after ← words? true after
    let given := before.length + after.length
    guard (given < 8)
    return before ++ List.replicate (8 - given) 0 ++ after

/-- The number of zeros at the front. -/
def leadingZeros (words : List Nat) : Nat :=
  (words.takeWhile (· == 0)).length

/-- The length of the longest run of zeros. -/
def longestZeros : List Nat → Nat
  | [] => 0
  | w :: rest => max (leadingZeros (w :: rest)) (longestZeros rest)

/-- Splits at the first run of zeros of the given length, which is not zero. -/
def splitAtZeros (length : Nat) : List Nat → List Nat × List Nat
  | [] => ([], [])
  | w :: rest =>
    if leadingZeros (w :: rest) = length then ([], (w :: rest).drop length)
    else
      let (before, after) := splitAtZeros length rest
      (w :: before, after)

def wordsText (words : List Nat) : List Char :=
  List.intercalate [':'] (words.map (Nat.toDigits 16))

/-- Eight words in hexadecimal; the first of the longest runs of several zeros is left out. -/
def ipv6Text (words : List Nat) : List Char :=
  let length := longestZeros words
  if length < 2 then wordsText words
  else
    let (before, after) := splitAtZeros length words
    wordsText before ++ [':', ':'] ++ wordsText after

end ShowScout.Web
