import ShowScout.Text.Blank
import ShowScout.Unicode.Property

/-!
# Logging directives

A directive says from which level on the messages of a target are logged, as in `hyper=warn` or
`hyper[request]=warn`. Only whether it is well formed matters here.
-/

namespace ShowScout.Logging

inductive DirectiveError where
  | malformed
  | unknownLevel
deriving DecidableEq, Repr

def DirectiveError.message : DirectiveError → String
  | .malformed => "invalid filter directive"
  | .unknownLevel =>
    "error parsing level filter: expected one of \"off\", \"error\", \"warn\", \"info\", " ++
      "\"debug\", \"trace\", or a number 0-5"

/-! ## Levels -/

/-- Whether a text is one of the numbers that stand for levels. -/
def isLevelNumber (s : List Char) : Bool :=
  let digits := match s with
    | '+' :: digits => digits
    | digits => digits
  match digits.dropWhile (· == '0') with
  | [] => !digits.isEmpty
  | [d] => '1' ≤ d && d ≤ '5'
  | _ => false

/-- Whether a text stands for a level in a directive. No text stands for all messages. -/
def isDirectiveLevel (s : List Char) : Bool :=
  let lower := String.ofList (s.map Char.toLower)
  s.isEmpty || isLevelNumber s || ["off", "error", "warn", "info", "debug", "trace"].contains lower

/-! ## Directives -/

/-- What part of a directive is being read. -/
inductive DirectivePart where
  | start
  | target
  | span
  | field
  | afterField
  | afterSpan
  /-- The level, from a position on. -/
  | level (begin : Nat)
  | done
deriving DecidableEq, Repr

/-- Whether a directive can start with a character. -/
def startsDirective (c : Char) : Bool :=
  ['-', ':', '_'].contains c || Unicode.alphabetic.containsChar c || Unicode.number.containsChar c

namespace DirectivePart

/-- Refuses a level that is none. -/
def checkLevel (level : List Char) : Except DirectiveError Unit :=
  if isDirectiveLevel level then .ok () else .error .unknownLevel

/-- The part that follows when a character is met at a position of a text. -/
def next (text : List Char) (position : Nat) (c : Char) :
    DirectivePart → Except DirectiveError DirectivePart
  | start =>
    if c = '[' then .ok span else if startsDirective c then .ok target else .error .malformed
  | target =>
    .ok (if c = '=' then level (position + 1) else if c = '[' then span else if c = ',' then done
      else target)
  | span => .ok (if c = ']' then afterSpan else if c = '\x7b' then field else span)
  | field => .ok (if c = '\x7d' then afterField else field)
  | afterField => if c = ']' then .ok afterSpan else .error .malformed
  | afterSpan => if c = '=' then .ok (level (position + 1)) else .error .malformed
  | level begin =>
    if c = ',' then do
      checkLevel ((text.take position).drop begin)
      return done
    else .ok (level begin)
  | done => .error .malformed

/-- Whether a directive can end in a part. -/
def finish (text : List Char) : DirectivePart → Except DirectiveError Unit
  | target | afterSpan | done => .ok ()
  | level begin => checkLevel (text.drop begin)
  | start | span | field | afterField => .error .malformed

/-- Reads the characters from a position of a text on. -/
def read (text : List Char) (position : Nat) (part : DirectivePart) :
    List Char → Except DirectiveError Unit
  | [] => part.finish text
  | c :: rest => do read text (position + 1) (← part.next text position c) rest

end DirectivePart

/--
Checks a directive. Blanks around it are passed over, but positions are not moved by blanks in
front, so that a level is only found in a directive without them.
-/
def checkDirective (directive : String) : Except DirectiveError Unit :=
  DirectivePart.start.read directive.toList 0 (Text.trimChars directive.toList)

end ShowScout.Logging
