/-!
# Percent coding

Characters that may not stand in a part of an address are written as the bytes of their encoding,
each a percent sign and two hexadecimal digits.
-/

namespace ShowScout.Web

/-- The hexadecimal digit of a value below sixteen, in upper case. -/
def upperHexDigit (n : Nat) : Char :=
  (Nat.digitChar n).toUpper

/-- A byte as a percent sign and two digits. -/
def percentByte (b : UInt8) : List Char :=
  ['%', upperHexDigit (b.toNat / 16), upperHexDigit (b.toNat % 16)]

/-- Writes the characters of a kind as their bytes and leaves the others alone. -/
def percentEncode (mustEncode : Char → Bool) (s : List Char) : List Char :=
  s.flatMap fun c => if mustEncode c then (String.utf8EncodeChar c).flatMap percentByte else [c]

def hexDigit? (c : Char) : Option Nat :=
  if '0' ≤ c && c ≤ '9' then some (c.toNat - '0'.toNat)
  else if 'a' ≤ c && c ≤ 'f' then some (c.toNat - 'a'.toNat + 10)
  else if 'A' ≤ c && c ≤ 'F' then some (c.toNat - 'A'.toNat + 10)
  else none

/-- The byte that two hexadecimal digits stand for. -/
def hexByte? (high low : Char) : Option UInt8 := do
  return .ofNat ((← hexDigit? high) * 16 + (← hexDigit? low))

/-- The bytes that a text stands for. A percent sign without two digits stands for itself. -/
def percentDecode : List Char → List UInt8
  | [] => []
  | '%' :: high :: low :: rest =>
    match hexByte? high low with
    | some b => b :: percentDecode rest
    | none => String.utf8EncodeChar '%' ++ percentDecode (high :: low :: rest)
  | c :: rest => String.utf8EncodeChar c ++ percentDecode rest

/-- The text that bytes encode, if they encode one. -/
def textOfBytes? (bytes : List UInt8) : Option (List Char) :=
  (String.fromUTF8? ⟨bytes.toArray⟩).map String.toList

end ShowScout.Web
