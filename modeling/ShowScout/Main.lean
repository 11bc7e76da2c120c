import ShowScout.CommandLine.Usage
import ShowScout.Program
import Std.Time

/-!
# The command line program

Shows the library the files that a command line names, carries the command line out, and makes the
changes that it asks for.
-/

namespace ShowScout

/-! ## Files -/

/-- The paths that a command line may read or write. -/
def Arguments.paths (a : Arguments) (today : Date) : List String :=
  a.settings :: a.logFile.toList ++
    match a.command with
    | .importFrom file _ _ => [file]
    | .backup out => [out.getD (backupFileName today)]
    | .share _ out => out.toList
    | _ => []

/-- The path of a place from the root. -/
def Files.Place.path (place : Files.Place) : String :=
  "/" ++ "/".intercalate place.reverse

/-- Adds what a path leads to. -/
def readPath (t : Files.Tree) (path : String) : IO Files.Tree := do
  let name := System.mkFilePath [path]
  match t.place path with
  | .error _ => return t
  | .ok place =>
    if ← name.isDir then return t.put place .directory
    else if ← name.pathExists then return t.put place (.file (← IO.FS.readBinFile name))
    else return t

/-- The files that some paths lead to, and the directories on the way to them. -/
def readFiles (paths : List String) : IO Files.Tree := do
  let directory := (← IO.currentDir).toString
  let names := ((Files.parts directory).filter (!Files.isIdle ·)).map String.ofList
  let start : Files.Tree := { workingDirectory := names.reverse }
  let all := Files.ancestry directory :: paths.map Files.ancestry
  (all.flatMap List.reverse).foldlM readPath start

/-- Makes the changes from one tree to another. -/
def writeFiles (before after : Files.Tree) : IO Unit := do
  for (place, entry) in after.entries.reverse do
    if before.entry? place != some entry then
      match entry with
      | .directory => IO.FS.createDirAll place.path
      | .file contents => IO.FS.writeBinFile place.path contents

/-! ## The program -/

def today : IO Date := do
  let d ← Std.Time.PlainDate.now
  match Date.of? d.year.toInt d.month.val.toNat d.day.val.toNat with
  | some date => return date
  | none => throw (.userError "The calendar does not have today's date")

/-- Carries out a command line that has been read. -/
def Arguments.main (a : Arguments) : IO UInt32 := do
  let today ← today
  let files ← readFiles (a.paths today)
  -- a part of a millisecond counts as one
  let clock := ((← IO.monoNanosNow) + 999999) / 1000000
  let s : Surroundings := { network := .down, browser := .unreachable, today, clock }
  let (result, w) := a.runLogged s { files }
  writeFiles files w.files
  IO.print w.output
  match result with
  | .error (.command e) => IO.eprintln ("error: " ++ e.message)
  | .error (.logging e) => IO.eprintln ("error: " ++ e.message)
  | _ => pure ()
  return .ofNat (exitCode result)

end ShowScout

def main (words : List String) : IO UInt32 := do
  match ShowScout.Arguments.parse words with
  | .ok a => a.main
  | .error e =>
    if e.isRequest then IO.println e.message else IO.eprintln e.message
    return .ofNat (ShowScout.exitCode (.error (.usage e)))
