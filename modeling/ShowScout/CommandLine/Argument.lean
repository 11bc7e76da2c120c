/-!
# Arguments

What can be said on the command line: which arguments there are, what values they take, and which of
them belong to which subcommand. Options for all commands may stand at every level of subcommands.
-/

namespace ShowScout.CommandLine

/-! ## Values -/

/-- What an argument takes as its value. -/
inductive ValueKind where
  /-- Nothing: the argument is given or not. -/
  | flag
  | text
  /-- A text that is not empty. -/
  | path
  | number (least most : Nat)
  /-- A text each time the argument is given. -/
  | textEach
  /-- One text or more each time the argument is given. -/
  | textsEach
deriving DecidableEq, Repr

/-- Whether an argument of a kind may be given again at the same level. -/
def ValueKind.isRepeatable : ValueKind → Bool
  | .textEach | .textsEach => true
  | .flag | .text | .path | .number .. => false

/-- A value that an argument has been given. -/
inductive Value where
  | present
  | text (s : String)
  | number (n : Nat)
  | texts (s : List String)
deriving DecidableEq, Repr

/-! ## Arguments -/

inductive Argument where
  | help
  | version
  | settings
  | internalAddress
  | externalAddress
  | apiKey
  | maxAttempts
  | intervalMs
  | probeTimeoutMs
  | headed
  | dryRun
  | logLevel
  | logJson
  | noColor
  | logSource
  | logFile
  | url
  | index
  | file
  | out
  | overwrite
  | only
  | name
deriving DecidableEq, Repr

namespace Argument

/-- The name after the two dashes of an option, and the name in messages of an operand. -/
def label : Argument → String
  | help => "help"
  | version => "version"
  | settings => "settings"
  | internalAddress => "internal-address"
  | externalAddress => "external-address"
  | apiKey => "api-key"
  | maxAttempts => "max-attempts"
  | intervalMs => "interval-ms"
  | probeTimeoutMs => "probe-timeout-ms"
  | headed => "headed"
  | dryRun => "dry-run"
  | logLevel => "log-level"
  | logJson => "log-json"
  | noColor => "no-color"
  | logSource => "log-source"
  | logFile => "log-file"
  | url => "URL"
  | index => "INDEX"
  | file => "FILE"
  | out => "out"
  | overwrite => "overwrite"
  | only => "only"
  | name => "name"

def kind : Argument → ValueKind
  | settings | logFile | file | out => .path
  | internalAddress | externalAddress | apiKey | logLevel | url => .text
  | maxAttempts => .number 1 (Nat.pow 2 32 - 1)
  | intervalMs | probeTimeoutMs => .number 1 (Nat.pow 2 64 - 1)
  | index => .number 0 (Nat.pow 2 64 - 1)
  | help | version | headed | dryRun | logJson | noColor | logSource | overwrite => .flag
  | name => .textEach
  | only => .textsEach

/-- The letter after one dash that stands for an option. -/
def letter? : Argument → Option Char
  | help => some 'h'
  | version => some 'V'
  | _ => none

/-- The options that may stand at every level and hold for the whole command line. -/
def globals : List Argument :=
  [settings, internalAddress, externalAddress, apiKey, maxAttempts, intervalMs, probeTimeoutMs,
    headed, dryRun, logLevel, logJson, noColor, logSource, logFile]

end Argument

/-! ## Levels -/

/-- How far subcommands have been named. -/
inductive Level where
  | top
  | check
  | extract
  | resolve
  | add
  | rules
  | rulesList
  | rulesEnable
  | rulesDisable
  | backup
  | importFrom
  | share
deriving DecidableEq, Repr

namespace Level

/-- The subcommands of a level. -/
def subcommands : Level → List (String × Level)
  | top =>
    [("check", check), ("extract", extract), ("resolve", resolve), ("add", add), ("rules", rules),
      ("backup", backup), ("import", importFrom), ("share", share)]
  | rules => [("list", rulesList), ("enable", rulesEnable), ("disable", rulesDisable)]
  | _ => []

/-- The argument of a level that is given without a name. -/
def operand? : Level → Option Argument
  | check | extract | add => some .url
  | rulesEnable | rulesDisable => some .index
  | importFrom => some .file
  | _ => none

/-- The options of a level that are not options of every level. -/
def ownOptions : Level → List Argument
  | top => [.version]
  | backup => [.out]
  | importFrom => [.overwrite, .only]
  | share => [.name, .out]
  | _ => []

/-- The arguments without which a level is not complete. -/
def required : Level → List Argument
  | share => [.name]
  | level => level.operand?.toList

def options (level : Level) : List Argument :=
  .help :: level.ownOptions ++ Argument.globals

/-- The option of a level with the given name. -/
def option? (level : Level) (label : String) : Option Argument :=
  level.options.find? (·.label == label)

/-- The option of a level for which a letter stands. -/
def optionOfLetter? (level : Level) (letter : Char) : Option Argument :=
  level.options.find? (·.letter? == some letter)

/--
Whether a subcommand has to be named next. Then help on the subcommands can be asked for, too.
-/
def isGroup (level : Level) : Bool :=
  !level.subcommands.isEmpty

/-- Whether a word names a subcommand of a level. -/
def names (level : Level) (word : String) : Bool :=
  level.isGroup && (word == "help" || (level.subcommands.lookup word).isSome)

end Level

end ShowScout.CommandLine
