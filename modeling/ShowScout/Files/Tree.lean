import ShowScout.Files.Path

/-!
# Trees of files

Directories and files, and what is done to them. A file holds bytes, which need not be a text.
Reading and writing a file succeeds as a whole or changes nothing; making several directories may
end after some of them.
-/

namespace ShowScout.Files

inductive Error where
  | notFound
  | alreadyExists
  | notDirectory
  | isDirectory
  | nameTooLong
  | nulInPath
  /-- Contents that are no text. -/
  | invalidData
deriving DecidableEq, Repr

def Error.message : Error → String
  | .notFound => "No such file or directory (os error 2)"
  | .alreadyExists => "File exists (os error 17)"
  | .notDirectory => "Not a directory (os error 20)"
  | .isDirectory => "Is a directory (os error 21)"
  | .nameTooLong => "File name too long (os error 36)"
  | .nulInPath => "file name contained an unexpected NUL byte"
  | .invalidData => "stream did not contain valid UTF-8"

/-! ## Places -/

/-- The names on the way from the root to a place, the last one first. -/
abbrev Place := List String

/-- What there is at a place. -/
inductive Entry where
  | file (contents : ByteArray)
  | directory

instance : DecidableEq Entry
  | .file a, .file b =>
    decidable_of_iff (a.data = b.data) (by rw [Entry.file.injEq, ByteArray.ext_iff])
  | .directory, .directory => isTrue rfl
  | .file _, .directory | .directory, .file _ => isFalse nofun

/-- A file that holds a text. -/
def Entry.text (s : String) : Entry :=
  .file s.toUTF8

/-- An entry as it is shown to a reader. -/
inductive ShownEntry where
  | file (text : String)
  | directory
deriving DecidableEq, Repr

/-- A file that holds no text cannot be shown. -/
def Entry.shown? : Entry → Option ShownEntry
  | .file contents => (String.fromUTF8? contents).map .file
  | .directory => some .directory

structure Tree where
  /-- Where paths start that do not start at the root. -/
  workingDirectory : Place := []
  /-- What there is at places other than the root; the first entry for a place counts. -/
  entries : List (Place × Entry) := []

namespace Tree

/-- What there is at a place. At the root there is always a directory. -/
def entry? (t : Tree) : Place → Option Entry
  | [] => some .directory
  | place => t.entries.lookup place

/-- Puts something at a place. -/
def put (t : Tree) (place : Place) (entry : Entry) : Tree :=
  { t with entries := (place, entry) :: t.entries.filter (·.1 != place) }

/-- One step from a place, which has to be a directory. -/
def step (t : Tree) (place : Place) (part : List Char) : Except Error Place :=
  match t.entry? place with
  | none => .error .notFound
  | some (.file _) => .error .notDirectory
  | some .directory =>
    if isIdle part then .ok place
    else if part == ['.', '.'] then .ok place.tail
    else if 255 < (String.ofList part).utf8ByteSize then .error .nameTooLong
    else .ok (.ofList part :: place)

/-- Follows some parts of a path. There need not be anything at the place where they lead. -/
def follow (t : Tree) (path : String) (parts : List (List Char)) : Except Error Place :=
  if path.toList.contains '\x00' then .error .nulInPath
  else if path.isEmpty then .error .notFound
  else if 4095 < path.utf8ByteSize then .error .nameTooLong
  else parts.foldlM t.step (if startsAtRoot path then [] else t.workingDirectory)

/-- The place to which a path leads. -/
def place (t : Tree) (path : String) : Except Error Place :=
  t.follow path (parts path)

/-! ## Reading -/

/-- What a path leads to. -/
def find? (t : Tree) (path : String) : Option Entry :=
  match t.place path with
  | .ok place => t.entry? place
  | .error _ => none

/-- Whether a path leads to anything. -/
def holds (t : Tree) (path : String) : Bool :=
  (t.find? path).isSome

def isDirectory (t : Tree) (path : String) : Bool :=
  t.find? path == some .directory

/-- The text of a file. -/
def read (t : Tree) (path : String) : Except Error String := do
  match t.entry? (← t.place path) with
  | some (.file contents) =>
    match String.fromUTF8? contents with
    | some text => .ok text
    | none => .error .invalidData
  | some .directory => .error .isDirectory
  | none => .error .notFound

/-- What can be shown below the working directory, each with its path from there. -/
def listing (t : Tree) : List (String × ShownEntry) :=
  t.entries.filterMap fun (place, entry) =>
    let names := place.take (place.length - t.workingDirectory.length)
    if t.workingDirectory.isSuffixOf place && !names.isEmpty then
      entry.shown?.map ("/".intercalate names.reverse, ·)
    else none

/-! ## Changing -/

/--
Writes a text to a file, which may be there already. A path with a slash at its end does not name a
file.
-/
def write (t : Tree) (path text : String) : Except Error Tree := do
  let place ← t.follow path (Text.dropEnd List.isEmpty (parts path))
  if path.toList.getLast? == some '/' || t.entry? place == some .directory then .error .isDirectory
  else .ok (t.put place (.text text))

/-- Makes one directory where there is nothing. -/
def makeDirectory (t : Tree) (path : String) : Except Error Tree := do
  let place ← t.place path
  if (t.entry? place).isSome then .error .alreadyExists else .ok (t.put place .directory)

/-- Removes a directory and all that it holds. What is no directory stays. -/
def removeDirectory (t : Tree) (path : String) : Tree :=
  match t.place path with
  | .error _ => t
  | .ok place =>
    if t.entry? place = some .directory then
      { t with entries := t.entries.filter fun (below, _) => !place.isSuffixOf below }
    else t

end Tree

/-! ## Making directories -/

/-- Work on a tree. What has been done stays done when the rest fails. -/
abbrev FileM := EStateM Error Tree

/-- Makes a directory unless it is there already. -/
def ensureDirectory (path : String) : FileM Unit := do
  match (← get).makeDirectory path with
  | .ok t => set t
  | .error e => unless (← get).isDirectory path do throw e

/--
Makes the directory of the first path, and the directories of later paths as far as it lacks them.
-/
def ensureAncestry : List String → FileM Unit
  | [] => pure ()
  | path :: above => do
    match (← get).makeDirectory path with
    | .error .notFound =>
      ensureAncestry above
      ensureDirectory path
    | _ => ensureDirectory path

/-- Makes a directory and the directories above it, as far as they are not there. -/
def ensureDirectories (path : String) : FileM Unit :=
  ensureAncestry (ancestry path)

end ShowScout.Files
