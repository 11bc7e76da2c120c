import ShowScout.Command.Run
import ShowScout.Logging.Setup

/-!
# The program

From the words of a command line to what the user sees: logging is set up, the command is carried
out, and the exit code tells how it ended.
-/

namespace ShowScout

/-- Why the program ends without the result that was asked for. -/
inductive ProgramError where
  | usage (error : CommandLine.UsageError)
  | logging (error : LoggingError)
  | command (error : CommandError)

/-- Whether a user gets what was asked for although no command is carried out. -/
def CommandLine.UsageError.isRequest : CommandLine.UsageError → Bool
  | .help _ | .version => true
  | _ => false

/-- The code by which the program tells how it ended. -/
def exitCode : Except ProgramError Status → Nat
  | .ok .success => 0
  | .ok .noResult => 2
  | .error (.usage error) => if error.isRequest then 0 else 2
  | .error (.logging _) | .error (.command _) => 1

/-- Carries out a command line that has been read. -/
def Arguments.runLogged (a : Arguments) (s : Surroundings) (w : Workplace) :
    Except ProgramError Status × Workplace :=
  match (LoggingConfig.ofArguments a).setUp w.files with
  | .error e files => (.error (.logging e), { w with files })
  | .ok _ files =>
    match a.run s { w with files } with
    | .ok status w => (.ok status, w)
    | .error e w => (.error (.command e), w)

/-- Carries out a command line, given by its words without the name of the program. -/
def runProgram (s : Surroundings) (words : List String) (w : Workplace) :
    Except ProgramError Status × Workplace :=
  match Arguments.parse words with
  | .error e => (.error (.usage e), w)
  | .ok a => a.runLogged s w

end ShowScout
