import ShowScout.Unicode.Property

/-!
# Texts in quotes for messages

The form in which a message shows a text: in double quotes, with every character that could not be
seen escaped.
-/

namespace ShowScout.Text

/-- Whether a character has no visible form of its own: it is unassigned, a control or a blank. -/
def isInvisible (c : Char) : Bool :=
  c != ' ' && (Unicode.other.containsChar c || Unicode.separator.containsChar c)

/-- A code point in hexadecimal, in braces after `\u`. -/
def codeEscape (c : Char) : List Char :=
  ['\\', 'u', '\x7b'] ++ Nat.toDigits 16 c.toNat ++ ['\x7d']

/-- A character inside quotes. Marks that would join the character before them are escaped too. -/
def quotedChar (c : Char) : List Char :=
  if c = '\x00' then ['\\', '0']
  else if c = '\t' then ['\\', 't']
  else if c = '\r' then ['\\', 'r']
  else if c = '\n' then ['\\', 'n']
  else if c = '\\' then ['\\', '\\']
  else if c = '"' then ['\\', '"']
  else if Unicode.graphemeExtend.containsChar c || isInvisible c then codeEscape c
  else [c]

def quoted (s : String) : String :=
  .ofList ('"' :: (s.toList.flatMap quotedChar ++ ['"']))

end ShowScout.Text
