/-!
# Blanks around a text

The blanks of all writing systems, and texts without the blanks around them.
-/

namespace ShowScout.Text

/-- The characters that are blank, in any writing system. -/
def isBlank (c : Char) : Bool :=
  let n := c.toNat
  (9 ≤ n && n ≤ 13) || n == 0x20 || n == 0x85 || n == 0xA0 || n == 0x1680 ||
    (0x2000 ≤ n && n ≤ 0x200A) || n == 0x2028 || n == 0x2029 || n == 0x202F || n == 0x205F ||
    n == 0x3000

/-- The elements without the last ones, as far as they are of a kind. -/
def dropEnd {α : Type} (p : α → Bool) (s : List α) : List α :=
  (s.reverse.dropWhile p).reverse

def trimChars (s : List Char) : List Char :=
  dropEnd isBlank (s.dropWhile isBlank)

/-- The text without the blanks at its ends. -/
def trim (s : String) : String :=
  .ofList (trimChars s.toList)

/-- Whether a text holds nothing but blanks. -/
def isAllBlank (s : String) : Bool :=
  (trim s).isEmpty

/-- The text of an optional field; a blank one counts as not given. -/
def nonBlank? (s : Option String) : Option String :=
  s.filter fun s => !isAllBlank s

/-! ## Texts within texts -/

/-- Whether `part` stands somewhere in `s`. -/
def holdsChars (part : List Char) : List Char → Bool
  | [] => part.isEmpty
  | c :: s => part.isPrefixOf (c :: s) || holdsChars part s

def holds (s part : String) : Bool :=
  holdsChars part.toList s.toList

end ShowScout.Text
