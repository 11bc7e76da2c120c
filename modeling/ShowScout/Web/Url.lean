import ShowScout.Web.Host

/-!
# Addresses of pages

Reads an address of the web as browsers do: forgiving in how it is written, and with one form for
all ways of writing it. `Url.parse` reads and `Url.text` writes an address.
-/

namespace ShowScout.Web

inductive Scheme where
  | http
  | https
deriving DecidableEq, Repr

namespace Scheme

def name : Scheme → List Char
  | http => "http".toList
  | https => "https".toList

/-- The port that need not be written. -/
def defaultPort : Scheme → Nat
  | http => 80
  | https => 443

end Scheme

structure Url where
  scheme : Scheme
  host : Host
  /-- The port, unless it is the scheme's own. -/
  port : Option Nat
  /-- The parts of the path between its slashes. -/
  segments : List (List Char)
  query : Option (List Char)
  fragment : Option (List Char)
deriving DecidableEq, Repr

/-! ## Characters -/

def isSlash (c : Char) : Bool := c == '/' || c == '\\'

/-- Characters that are removed wherever they stand. -/
def isIgnored (c : Char) : Bool := c == '\t' || c == '\n' || c == '\r'

/-- Whether a character has to be encoded in every part of an address. -/
def isEncodedAnywhere (c : Char) : Bool :=
  c ≤ ' ' || '\x7f' ≤ c || ['"', '<', '>'].contains c

def isEncodedInPath (c : Char) : Bool :=
  isEncodedAnywhere c || ['#', '?', '`', '\x7b', '\x7d'].contains c

def isEncodedInQuery (c : Char) : Bool :=
  isEncodedAnywhere c || ['#', '\''].contains c

def isEncodedInFragment (c : Char) : Bool :=
  isEncodedAnywhere c || c == '`'

/-- The text without controls and blanks at its ends and without breaks anywhere. -/
def cleaned (s : List Char) : List Char :=
  (((s.dropWhile (· ≤ ' ')).reverse.dropWhile (· ≤ ' ')).reverse).filter (!isIgnored ·)

/-! ## Paths -/

/-- A dot, also in its encoded form, at the front of a text, and what follows it. -/
def dropDot? : List Char → Option (List Char)
  | '.' :: rest => some rest
  | '%' :: '2' :: 'e' :: rest => some rest
  | '%' :: '2' :: 'E' :: rest => some rest
  | _ => none

/-- Whether a part of a path stands for the place where it is. -/
def isSingleDot (s : List Char) : Bool :=
  dropDot? s == some []

/-- Whether a part of a path stands for the place above. -/
def isDoubleDot (s : List Char) : Bool :=
  (dropDot? s).bind dropDot? == some []

/-- A letter and a colon or bar, which names a drive and which no step upwards leaves. -/
def isDrive : List Char → Bool
  | [letter, c] => letter.isAlpha && (c == ':' || c == '|')
  | _ => false

/-- The place above, `above` being the parts of a path in reverse. -/
def stepUp : List (List Char) → List (List Char)
  | [] => []
  | last :: above => if isDrive last then last :: above else above

/-- Carries out the parts that stand for places; `done` is what there is, in reverse. -/
def resolveDots (done : List (List Char)) : List (List Char) → List (List Char)
  | [] => done.reverse
  | s :: rest =>
    let place? :=
      if isDoubleDot s then some (stepUp done) else if isSingleDot s then some done else none
    match place?, rest with
    | none, _ => resolveDots (s :: done) rest
    | some place, [] => ([] :: place).reverse
    | some place, _ :: _ => resolveDots place rest

/-- The parts of a path that is written after an authority. -/
def pathSegments (s : List Char) : List (List Char) :=
  let s := match s with
    | c :: rest => if isSlash c then rest else c :: rest
    | [] => []
  resolveDots [] ((s.splitOnP isSlash).map (percentEncode isEncodedInPath))

/-- A path, each part after a slash. -/
def pathText (segments : List (List Char)) : List Char :=
  segments.flatMap ('/' :: ·)

/-! ## Parts of an address -/

/-- Whether a character ends the authority. -/
def endsAuthority (c : Char) : Bool := isSlash c || c == '?' || c == '#'

/-- The part of an authority after the last at sign, before which a user may be named. -/
def withoutUser (s : List Char) : List Char :=
  (s.reverse.takeWhile (· != '@')).reverse

/-- Splits at the first colon outside brackets. -/
def splitPort (bracketed : Bool) : List Char → List Char × Option (List Char)
  | [] => ([], none)
  | c :: rest =>
    if c == ':' && !bracketed then ([], some rest)
    else
      let bracketed := if c == '[' then true else if c == ']' then false else bracketed
      let (host, port) := splitPort bracketed rest
      (c :: host, port)

/-- The port that is written after a host, unless it is the scheme's own or left out. -/
def readPort (scheme : Scheme) : Option (List Char) → Except UrlError (Option Nat)
  | none => .ok none
  | some [] => .ok none
  | some digits =>
    match digitsValue? 10 digits with
    | some n =>
      if n ≥ 65536 then .error .invalidPort
      else .ok (if n = scheme.defaultPort then none else some n)
    | none => .error .invalidPort

/-- The scheme of an address and what follows its colon. -/
def readScheme (s : List Char) : Except UrlError (Scheme × List Char) :=
  let (name, rest) := (s.takeWhile (· != ':'), s.dropWhile (· != ':'))
  match name.map Char.toLower, rest with
  | ['h', 't', 't', 'p'], _ :: rest => .ok (.http, rest)
  | ['h', 't', 't', 'p', 's'], _ :: rest => .ok (.https, rest)
  | _, _ => .error .notHttp

/-- The part of a text after the first character of a kind, if it has one. -/
def after? (c : Char) (s : List Char) : Option (List Char) :=
  match s.dropWhile (· != c) with
  | _ :: rest => some rest
  | [] => none

/-! ## Whole addresses -/

namespace Url

def parse (s : List Char) : Except UrlError Url := do
  let (scheme, rest) ← readScheme (cleaned s)
  let rest := rest.dropWhile isSlash
  let authority := withoutUser (rest.takeWhile (!endsAuthority ·))
  let rest := rest.dropWhile (!endsAuthority ·)
  let (host, port) := splitPort false authority
  if host.isEmpty then .error .emptyHost else
  let host ← Host.parse host
  let port ← readPort scheme port
  let beforeFragment := rest.takeWhile (· != '#')
  return {
    scheme, host, port
    segments := pathSegments (beforeFragment.takeWhile (· != '?'))
    query := (after? '?' beforeFragment).map (percentEncode isEncodedInQuery)
    fragment := (after? '#' rest).map (percentEncode isEncodedInFragment) }

def path (u : Url) : List Char :=
  pathText u.segments

/-- The scheme, host and port, before which no user is named. -/
def originText (u : Url) : List Char :=
  u.scheme.name ++ "://".toList ++ u.host.toText ++
    match u.port with
    | some n => ':' :: decimal n
    | none => []

/-- What a request for the page names: its path and query. -/
def target (u : Url) : List Char :=
  u.path ++
    match u.query with
    | some q => '?' :: q
    | none => []

def text (u : Url) : List Char :=
  u.originText ++ u.target ++
    match u.fragment with
    | some f => '#' :: f
    | none => []

end Url

end ShowScout.Web
