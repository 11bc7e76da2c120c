import ShowScout.CommandLine.Parser

/-!
# Help on the command line

What a user is told whose command line is not carried out. Who asks for help is told how a command
line goes on.
-/

namespace ShowScout.CommandLine

namespace Argument

/-- The name by which the value of an argument is spoken of. -/
def placeholder (a : Argument) : String :=
  .ofList (a.label.toList.map fun c => if c == '-' then '_' else c.toUpper)

/-- How an argument is written. -/
def usage (a : Argument) : String :=
  match a with
  | url | index | file => "<" ++ a.label ++ ">"
  | _ =>
    match a.kind with
    | .flag => "--" ++ a.label
    | .textsEach => "--" ++ a.label ++ " <" ++ a.placeholder ++ ">..."
    | _ => "--" ++ a.label ++ " <" ++ a.placeholder ++ ">"

end Argument

namespace Level

/-- The words that lead to a level. -/
def path : Level → String
  | top => "showhook"
  | check => "showhook check"
  | extract => "showhook extract"
  | resolve => "showhook resolve"
  | add => "showhook add"
  | rules => "showhook rules"
  | rulesList => "showhook rules list"
  | rulesEnable => "showhook rules enable"
  | rulesDisable => "showhook rules disable"
  | backup => "showhook backup"
  | importFrom => "showhook import"
  | share => "showhook share"

/-- The line that says how a command line goes on from a level. -/
def usage (level : Level) : String :=
  let rest := if level.isGroup then ["<COMMAND>"] else level.operand?.toList.map Argument.usage
  " ".intercalate (["Usage:", level.path, "[OPTIONS]"] ++ rest)

end Level

/-- What the user is told. -/
def UsageError.message : UsageError → String
  | .help level | .nothingGiven level => level.usage
  | .version => "showhook 0.1.0"
  | .missingSubcommand level =>
    "error: '" ++ level.path ++ "' requires a subcommand but one was not provided"
  | .missingArgument a =>
    "error: the following required arguments were not provided:\n  " ++ a.usage
  | .unknownArgument word => "error: unexpected argument '" ++ word ++ "' found"
  | .unknownSubcommand word => "error: unrecognized subcommand '" ++ word ++ "'"
  | .missingValue a => "error: a value is required for '" ++ a.usage ++ "' but none was supplied"
  | .invalidValue a value => "error: invalid value '" ++ value ++ "' for '" ++ a.usage ++ "'"
  | .unexpectedValue a value =>
    "error: unexpected value '" ++ value ++ "' for '" ++ a.usage ++ "' found; no more were expected"
  | .repeated a => "error: the argument '" ++ a.usage ++ "' cannot be used multiple times"

end ShowScout.CommandLine
