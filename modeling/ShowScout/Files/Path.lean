import ShowScout.Text.Blank

/-!
# Paths

Paths as they are written: names between slashes, starting at the root or at the working directory.
Parts without a name and single dots lead nowhere else, but a part of two dots counts as a step.
-/

namespace ShowScout.Files

/--
The parts of a path between its slashes. A path that starts at the root has an empty first part.
-/
def parts (path : String) : List (List Char) :=
  path.toList.splitOn '/'

/-- Whether a path starts at the root. -/
def startsAtRoot (path : String) : Bool :=
  path.toList.head? == some '/'

/-- Whether a part leads nowhere else. -/
def isIdle (part : List Char) : Bool :=
  part.isEmpty || part == ['.']

/-- The paths along the later parts, which come in reverse, back to the first part. -/
def ancestryFrom (first : List Char) : List (List Char) → List String
  | [] => [if first.isEmpty then "/" else .ofList first]
  | part :: above =>
    if isIdle part then ancestryFrom first above
    else .ofList (['/'].intercalate (first :: (part :: above).reverse)) :: ancestryFrom first above

/-- A path without idle parts at its end, and after it each path of which it is a continuation. -/
def ancestry (path : String) : List String :=
  if path.isEmpty then []
  else
    match parts path with
    | [] => []
    | first :: rest => ancestryFrom first rest.reverse

/-- The path of the directory that holds what a path leads to, if the path names one. -/
def parent? (path : String) : Option String :=
  (ancestry path)[1]?

/-- The last name of a path, if the path ends in a name. -/
def fileName? (path : String) : Option String :=
  ((parts path).reverse.find? fun part => !isIdle part).bind fun part =>
    if part == ['.', '.'] then none else some (.ofList part)

end ShowScout.Files
