import ShowScout.CommandLine.Parser

/-!
# Command lines

A command together with the options for all commands, as `Arguments.parse` reads them from the words
of a command line.
-/

namespace ShowScout

inductive Command where
  | check (url : String)
  | extract (url : String)
  | resolve
  | add (url : String)
  | rulesList
  | rulesEnable (index : Nat)
  | rulesDisable (index : Nat)
  | backup (out : Option String)
  | importFrom (file : String) (overwrite : Bool) (only : List String)
  | share (names : List String) (out : Option String)
deriving DecidableEq, Repr

structure Arguments where
  settings : String := "./showhook-settings.json"
  internalAddress : Option String := none
  externalAddress : Option String := none
  apiKey : Option String := none
  maxAttempts : UInt32 := 60
  /-- Milliseconds between two looks at a page. -/
  interval : Nat := 250
  /-- Milliseconds that a server has to answer. -/
  probeTimeout : Nat := 3000
  headed : Bool := false
  dryRun : Bool := false
  logLevel : String := "info"
  logJson : Bool := false
  noColor : Bool := false
  logSource : Bool := false
  logFile : Option String := none
  command : Command
deriving DecidableEq, Repr

namespace CommandLine.Reading

/-- The value of an argument. If it was given at several levels, the innermost one counts. -/
def value? (r : Reading) (a : Argument) : Option Value :=
  r.given.lookup a

def isPresent (r : Reading) (a : Argument) : Bool :=
  (r.value? a).isSome

def text? (r : Reading) (a : Argument) : Option String :=
  match r.value? a with
  | some (.text s) => some s
  | _ => none

def number? (r : Reading) (a : Argument) : Option Nat :=
  match r.value? a with
  | some (.number n) => some n
  | _ => none

/-- All texts of an argument that may be given again. -/
def texts (r : Reading) (a : Argument) : List String :=
  r.given.flatMap fun
    | (b, .texts s) => if b = a then s else []
    | _ => []

/-- The command of a subcommand that has none of its own. -/
def command? (r : Reading) : Option Command :=
  match r.leaf with
  | .top | .rules => none
  | .check => (r.text? .url).map .check
  | .extract => (r.text? .url).map .extract
  | .resolve => some .resolve
  | .add => (r.text? .url).map .add
  | .rulesList => some .rulesList
  | .rulesEnable => (r.number? .index).map .rulesEnable
  | .rulesDisable => (r.number? .index).map .rulesDisable
  | .backup => some (.backup (r.text? .out))
  | .importFrom => (r.text? .file).map (.importFrom · (r.isPresent .overwrite) (r.texts .only))
  | .share => some (.share (r.texts .name) (r.text? .out))

/-- The options and the command. -/
def arguments (r : Reading) (command : Command) : Arguments :=
  let standard : Arguments := { command }
  { settings := (r.text? .settings).getD standard.settings
    internalAddress := r.text? .internalAddress
    externalAddress := r.text? .externalAddress
    apiKey := r.text? .apiKey
    maxAttempts := ((r.number? .maxAttempts).map .ofNat).getD standard.maxAttempts
    interval := (r.number? .intervalMs).getD standard.interval
    probeTimeout := (r.number? .probeTimeoutMs).getD standard.probeTimeout
    headed := r.isPresent .headed
    dryRun := r.isPresent .dryRun
    logLevel := (r.text? .logLevel).getD standard.logLevel
    logJson := r.isPresent .logJson
    noColor := r.isPresent .noColor
    logSource := r.isPresent .logSource
    logFile := r.text? .logFile
    command }

end CommandLine.Reading

/-- Reads a command line, without the name of the program. -/
def Arguments.parse (words : List String) : Except CommandLine.UsageError Arguments := do
  let reading ← CommandLine.Level.top.read {} words
  match reading.command? with
  | some command => return reading.arguments command
  | none => .error (.missingSubcommand reading.leaf)

end ShowScout
