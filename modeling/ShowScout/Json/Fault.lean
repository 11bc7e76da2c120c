import ShowScout.Json.Printer
import ShowScout.Text.Quoted

/-!
# What can be wrong with a JSON document

A document is read until the first fault, which is described by its cause and the line and column
where it was noticed. Columns count bytes.
-/

namespace ShowScout.Json

/-- What stands where something else is expected. -/
inductive Found where
  | null
  | bool (b : Bool)
  | number (n : Number)
  | text (s : String)
  | list
  | object

def Found.description : Found → String
  | .null => "null"
  | .bool b => "boolean `" ++ toString b ++ "`"
  | .number (.natural n) => "integer `" ++ String.ofList (Number.natural n).text ++ "`"
  | .number (.negative n) => "integer `" ++ String.ofList (Number.negative n).text ++ "`"
  | .number (.float x) => "floating point `" ++ String.ofList (Number.float x).text ++ "`"
  | .text s => "string " ++ Text.quoted s
  | .list => "sequence"
  | .object => "map"

inductive Cause where
  | endInList
  | endInObject
  | endInString
  | endInValue
  | expectedColon
  | expectedCommaInList
  | expectedCommaInObject
  | expectedWord
  | expectedValue
  | invalidEscape
  | invalidNumber
  | numberOutOfRange
  | controlCharacter
  | keyNotString
  | loneSurrogate
  | unfinishedSurrogate
  | trailingComma
  | trailingText
  | nestedTooDeeply
  | wrongType (found : Found) (expected : String)
  | duplicateField (name : String)

def Cause.message : Cause → String
  | .endInList => "EOF while parsing a list"
  | .endInObject => "EOF while parsing an object"
  | .endInString => "EOF while parsing a string"
  | .endInValue => "EOF while parsing a value"
  | .expectedColon => "expected `:`"
  | .expectedCommaInList => "expected `,` or `]`"
  | .expectedCommaInObject => "expected `,` or `\x7d`"
  | .expectedWord => "expected ident"
  | .expectedValue => "expected value"
  | .invalidEscape => "invalid escape"
  | .invalidNumber => "invalid number"
  | .numberOutOfRange => "number out of range"
  | .controlCharacter => "control character (\\u0000-\\u001F) found while parsing a string"
  | .keyNotString => "key must be a string"
  | .loneSurrogate => "lone leading surrogate in hex escape"
  | .unfinishedSurrogate => "unexpected end of hex escape"
  | .trailingComma => "trailing comma"
  | .trailingText => "trailing characters"
  | .nestedTooDeeply => "recursion limit exceeded"
  | .wrongType found expected => "invalid type: " ++ found.description ++ ", expected " ++ expected
  | .duplicateField name => "duplicate field `" ++ name ++ "`"

/-! ## Places -/

/-- Where a reader stands when it notices a fault: the text not yet read, and bytes beyond that. -/
structure Fault where
  cause : Cause
  rest : List Char
  beyond : Nat := 0

namespace Fault

/-- A fault noticed after what has been read. -/
def here (cause : Cause) (rest : List Char) : Fault :=
  { cause, rest }

/-- A fault noticed at the next character, which counts as read; at the end there is none. -/
def atNext (cause : Cause) (rest : List Char) : Fault :=
  { cause, rest, beyond := if rest.isEmpty then 0 else 1 }

end Fault

/-- The number of bytes of a text. -/
def byteLength (text : List Char) : Nat :=
  text.foldr (fun c n => c.utf8Size + n) 0

/-- The line and column of the place so many bytes into a text. -/
def placeAt : (bytes : Nat) → (line column : Nat) → List Char → Nat × Nat
  | bytes, line, column, [] => (line, column + bytes)
  | bytes, line, column, c :: rest =>
    if bytes < c.utf8Size then (line, column + bytes)
    else if c = '\n' then placeAt (bytes - 1) (line + 1) 0 rest
    else placeAt (bytes - c.utf8Size) line (column + c.utf8Size) rest

/-- What is reported of a document that cannot be read. -/
structure Error where
  cause : Cause
  line : Nat
  column : Nat

def Fault.report (source : List Char) (f : Fault) : Error :=
  let (line, column) := placeAt (byteLength source - byteLength f.rest + f.beyond) 1 0 source
  { cause := f.cause, line, column }

def Error.message (e : Error) : String :=
  e.cause.message ++ " at line " ++ toString e.line ++ " column " ++ toString e.column

end ShowScout.Json
