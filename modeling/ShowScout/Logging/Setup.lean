import ShowScout.CommandLine.Arguments
import ShowScout.Files.Tree
import ShowScout.Logging.Directive
import ShowScout.Unicode.LetterCase

/-!
# Logging

What is logged, in which form and where to. `LoggingConfig.setUp` checks it all and makes the
directory of the log file.
-/

namespace ShowScout

namespace Logging

/-- Whether a text names a level, in any case of its letters. -/
def isLevel (s : String) : Bool :=
  ["trace", "debug", "info", "warn", "error"].contains (Unicode.toLowercase s)

end Logging

structure LoggingConfig where
  level : String := "info"
  json : Bool := false
  colors : Bool := true
  /-- Whether messages say where in the program they come from. -/
  source : Bool := false
  /-- A file to log to, besides the console. -/
  file : Option String := none
  /-- Parts of the program that have levels of their own, sorted by name. -/
  modules : List (String × String) :=
    [("chromiumoxide", "warn"), ("hyper", "warn"), ("reqwest", "warn"), ("tungstenite", "warn")]
deriving DecidableEq, Repr

inductive LoggingError where
  | unknownLevel (level : String)
  | noFileName
  | noDirectory (error : Files.Error)
  | badDirective (error : Logging.DirectiveError)
deriving DecidableEq, Repr

def LoggingError.message (e : LoggingError) : String :=
  "Logging setup failed: " ++
    match e with
    | .unknownLevel level => "Unknown log level '" ++ level ++ "'"
    | .noFileName => "Invalid log file name"
    | .noDirectory error => "Failed to create log directory: " ++ error.message
    | .badDirective error => "Invalid log directive: " ++ error.message

namespace LoggingConfig

/-- What a command line asks for. A level that is none counts as not given. -/
def ofArguments (a : Arguments) : LoggingConfig :=
  let standard : LoggingConfig := {}
  { standard with
    level := if Logging.isLevel a.logLevel then Unicode.toLowercase a.logLevel else standard.level
    json := a.logJson
    colors := !a.noColor
    source := a.logSource
    file := a.logFile }

/-- Gives a part of the program a level of its own. -/
def setModule (c : LoggingConfig) (module level : String) : LoggingConfig :=
  let before := c.modules.filter (·.1 < module)
  let after := c.modules.filter (module < ·.1)
  { c with modules := before ++ (module, level) :: after }

/-- Makes the directory of a log file. -/
def prepareFile (path : String) : EStateM LoggingError Files.Tree Unit := fun t =>
  match Files.fileName? path with
  | none => .error .noFileName t
  | some _ =>
    match Files.ensureDirectories ((Files.parent? path).getD ".") t with
    | .ok _ t => .ok () t
    | .error e t => .error (.noDirectory e) t

/-- Checks what is asked for and prepares the log file. Says whether there is one. -/
def setUp (c : LoggingConfig) : EStateM LoggingError Files.Tree Bool := do
  unless Logging.isLevel c.level do throw (.unknownLevel c.level)
  if let some path := c.file then prepareFile path
  for (module, level) in c.modules do
    if let .error e := Logging.checkDirective (module ++ "=" ++ level) then throw (.badDirective e)
  return c.file.isSome

end LoggingConfig

end ShowScout
