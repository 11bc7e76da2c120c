import ShowScout.Browser.Session
import ShowScout.Poll.Config
import ShowScout.Rule.Error
import ShowScout.Server.Probe
import ShowScout.Settings.Backup

/-!
# Commands

What commands work on, and how they end. A command may ask its surroundings, changes files and
writes lines; what it has done before it fails stays done. To write a line may fail too.
-/

namespace ShowScout

/-- How a command ends that could be carried out. -/
inductive Status where
  | success
  /-- Nothing was found. -/
  | noResult
deriving DecidableEq, Repr

/-! ## Failures -/

inductive CommandError where
  /-- No server answers, or none is configured. -/
  | needsConfiguration (settingsPath : String)
  | rule (error : RuleError)
  | unreadableFile (path : String) (error : Files.Error)
  | malformedFile (path : String) (error : RuleError)
  | noDirectory (path : String) (error : Files.Error)
  | unwrittenSettings (path : String) (error : Files.Error)
  | unwrittenBackup (path : String) (error : Files.Error)
  | unwrittenShare (path : String) (error : Files.Error)
  | noImportFile (path : String)
  | page (error : PageError)
  | link (error : LinkError)
  | poll (fault : PollFault)
  /-- A line for the user could not be written. -/
  | unsaid (reason : String)

/-- The message about a failure, followed by the message about its own cause. -/
def RuleError.fullMessage (e : RuleError) : String :=
  match e with
  | .unreadable cause => e.message ++ ": " ++ cause.message
  | _ => e.message

def CommandError.message : CommandError → String
  | .needsConfiguration path =>
    "No reachable SickChill server. Set internalAddress, externalAddress and apiKey in " ++ path
  | .rule error => error.fullMessage
  | .unreadableFile path error => "Failed to read settings file " ++ path ++ ": " ++ error.message
  | .malformedFile path error =>
    "Failed to parse settings file " ++ path ++ ": " ++ error.fullMessage
  | .noDirectory path error => "Failed to create directory " ++ path ++ ": " ++ error.message
  | .unwrittenSettings path error =>
    "Failed to write settings file " ++ path ++ ": " ++ error.message
  | .unwrittenBackup path error => "Failed to write backup " ++ path ++ ": " ++ error.message
  | .unwrittenShare path error => "Failed to write " ++ path ++ ": " ++ error.message
  | .noImportFile path => "Import file " ++ path ++ " does not exist"
  | .page error => error.message
  | .link error => error.message
  | .poll fault => fault.message
  | .unsaid reason => reason

/-! ## Work -/

/-- What commands ask and do not change. -/
structure Surroundings where
  network : Network
  browser : Browser
  today : Date
  /-- What the clock shows when polling starts, in milliseconds. -/
  clock : Nat := 0

/-- What commands change, and where they write. -/
structure Workplace where
  files : Files.Tree
  /-- The lines that have been written for the user, each as a whole. -/
  output : String := ""
  /-- Why a line cannot be written after the lines before it, if it cannot. -/
  refusal? : String → String → Option String := fun _ _ => none
  /-- The browsers that were to be started, in order. -/
  launches : List BrowserOptions := []

abbrev CommandM := EStateM CommandError Workplace

namespace CommandM

/-- Writes a line for the user. -/
def say (line : String) : CommandM Unit := do
  let w ← get
  match w.refusal? w.output line with
  | none => set { w with output := w.output ++ line ++ "\n" }
  | some reason => throw (.unsaid reason)

/-- Does work on files, whose failure is a failure of the command. -/
def onFiles {α : Type} (wrap : Files.Error → CommandError) (work : Files.FileM α) : CommandM α :=
  fun w =>
    match work w.files with
    | .ok a files => .ok a { w with files }
    | .error e files => .error (wrap e) { w with files }

/-- Starts a browser. -/
def launch (s : Surroundings) (o : BrowserOptions) : CommandM BrowserSession := do
  modify fun w => { w with launches := w.launches ++ [o] }
  ofExcept ((s.browser.launch o).mapError .page)

/-- Writes a file as a whole. -/
def writeFile (wrap : Files.Error → CommandError) (path text : String) : CommandM Unit :=
  onFiles wrap do
    match (← get).write path text with
    | .ok files => set files
    | .error e => throw e

end CommandM

end ShowScout
