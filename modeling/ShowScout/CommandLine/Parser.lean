import ShowScout.CommandLine.Argument

/-!
# Reading a command line

The words of a command line are read from left to right. At each level options and an operand may
stand in any order, until a subcommand opens the next level. Each level is checked when its words
are at an end, the inner levels first.
-/

namespace ShowScout.CommandLine

/-- Why a command line is not carried out. -/
inductive UsageError where
  /-- Help was asked for. -/
  | help (level : Level)
  | version
  /-- Nothing at all was said where a subcommand is needed. -/
  | nothingGiven (level : Level)
  | missingSubcommand (level : Level)
  | missingArgument (argument : Argument)
  | unknownArgument (word : String)
  | unknownSubcommand (word : String)
  | missingValue (argument : Argument)
  | invalidValue (argument : Argument) (value : String)
  | unexpectedValue (argument : Argument) (value : String)
  | repeated (argument : Argument)
deriving DecidableEq, Repr

/-! ## Values -/

/-- The value of a decimal number, which may have a plus sign. -/
def number? (s : String) : Option Nat :=
  let digits := match s.toList with
    | '+' :: digits => digits
    | digits => digits
  if !digits.isEmpty && digits.all Char.isDigit then
    some (digits.foldl (fun n d => 10 * n + (d.toNat - '0'.toNat)) 0)
  else none

/-- Reads the texts that an argument is given at once. Only flags go without any. -/
def Argument.read (a : Argument) (texts : List String) : Except UsageError Value :=
  match a.kind, texts with
  | .flag, _ => .ok .present
  | _, [] => .error (.missingValue a)
  | .textEach, texts | .textsEach, texts => .ok (.texts texts)
  | .text, s :: _ => .ok (.text s)
  | .path, s :: _ => if s.isEmpty then .error (.missingValue a) else .ok (.text s)
  | .number least most, s :: _ =>
    match number? s with
    | some n => if least ≤ n && n ≤ most then .ok (.number n) else .error (.invalidValue a s)
    | none => .error (.invalidValue a s)

/-! ## One level -/

/-- What has been read of a level. -/
structure Scan where
  given : List (Argument × Value) := []
  /-- The argument that was met last, with its texts so far. -/
  pending : Option (Argument × List String) := none
  hasOperand : Bool := false
  /-- Whether dashes have no meaning any more. -/
  operandsOnly : Bool := false
deriving Repr

namespace Scan

/-- Adds an argument with all its texts. -/
def give (s : Scan) (a : Argument) (texts : List String) : Except UsageError Scan := do
  if texts.isEmpty && a.kind != .flag then .error (.missingValue a)
  else if !a.kind.isRepeatable && (s.given.lookup a).isSome then .error (.repeated a)
  else return { s with given := s.given ++ [(a, ← a.read texts)] }

/-- Adds the argument that was met last, if its texts have not been added yet. -/
def settle (s : Scan) : Except UsageError Scan :=
  match s.pending with
  | some (a, texts) => { s with pending := none }.give a texts
  | none => .ok s

/-- The option that takes the next word as its text, unless the word has a meaning of its own. -/
def awaiting? (s : Scan) : Option (Argument × List String) :=
  s.pending.filter fun (a, texts) => a.kind == .textsEach || texts.isEmpty

/-! ## Words -/

/-- Meets an option that has no text attached. -/
def meet (level : Level) (s : Scan) (a : Argument) : Except UsageError Scan := do
  let s ← s.settle
  match a with
  | .help => .error (.help level)
  | .version => .error .version
  | a => if a.kind == .flag then s.give a [] else return { s with pending := some (a, []) }

/-- Meets a word that starts with two dashes, `rest` being what follows them. -/
def meetLong (level : Level) (s : Scan) (rest : List Char) : Except UsageError Scan :=
  let label := String.ofList (rest.takeWhile (· != '='))
  match level.option? label, rest.dropWhile (· != '=') with
  | none, _ => .error (.unknownArgument ("--" ++ label))
  | some a, [] => s.meet level a
  | some a, _ :: attached =>
    if a.kind == .flag then .error (.unexpectedValue a (.ofList attached))
    else do (← s.settle).give a [.ofList attached]

/-- Meets a word that starts with one dash, followed by a letter. -/
def meetShort (level : Level) (s : Scan) (letter : Char) : Except UsageError Scan :=
  match level.optionOfLetter? letter with
  | some a => s.meet level a
  | none => .error (.unknownArgument (.ofList ['-', letter]))

/-- Meets a word that is neither an option nor a text for one. -/
def meetOperand (level : Level) (s : Scan) (word : String) : Except UsageError Scan :=
  match level.operand? with
  | some a =>
    if s.hasOperand then .error (.unknownArgument word)
    else do return { ← s.settle with pending := some (a, [word]), hasOperand := true }
  | none =>
    if level.isGroup && !(s.operandsOnly && level.names word) then .error (.unknownSubcommand word)
    else .error (.unknownArgument word)

/-- Meets a word that names no subcommand. -/
def meetWord (level : Level) (s : Scan) (word : String) : Except UsageError Scan :=
  if s.operandsOnly then s.meetOperand level word
  else
    match word.toList with
    | ['-', '-'] => .ok { s with operandsOnly := true }
    | '-' :: '-' :: rest => s.meetLong level rest
    | '-' :: letter :: _ => s.meetShort level letter
    | _ =>
      match s.awaiting? with
      | some (a, texts) => .ok { s with pending := some (a, texts ++ [word]) }
      | none => s.meetOperand level word

/-- Whether a subcommand may be named here. -/
def mayDescend (s : Scan) : Bool :=
  !s.operandsOnly && s.awaiting?.isNone

end Scan

/-! ## All levels -/

/-- A command line that has been read. -/
structure Reading where
  /-- The subcommand, which has none of its own. -/
  leaf : Level
  /-- What has been given, at inner levels first. -/
  given : List (Argument × Value)
deriving DecidableEq, Repr

/-- What comes of a level at the end of its words, or when the levels within it have been read. -/
def Level.finish (level : Level) (s : Scan) (inner? : Option Reading) :
    Except UsageError Reading := do
  let s ← s.settle
  match inner? with
  | some inner => return { inner with given := inner.given ++ s.given }
  | none =>
    if level.isGroup then
      .error (if s.given.isEmpty then .nothingGiven level else .missingSubcommand level)
    else
      match level.required.find? fun a => (s.given.lookup a).isNone with
      | some a => .error (.missingArgument a)
      | none => return { leaf := level, given := s.given }

/-- What the words after `help` ask for. -/
def Level.explain (level : Level) : List String → UsageError
  | [] => .help level
  | word :: rest =>
    match level.subcommands.lookup word with
    | some child => child.explain rest
    | none =>
      match rest with
      | [] => if level.names word then .help level else .unknownSubcommand word
      | next :: _ => .unknownSubcommand (if level.names word then next else word)

/-- Reads the words from a level on. -/
def Level.read (level : Level) (s : Scan) : List String → Except UsageError Reading
  | [] => level.finish s none
  | word :: rest =>
    if s.mayDescend && level.names word then
      match level.subcommands.lookup word with
      | some child => do level.finish s (some (← child.read {} rest))
      | none => .error (level.explain rest)
    else do level.read (← s.meetWord level word) rest

end ShowScout.CommandLine
