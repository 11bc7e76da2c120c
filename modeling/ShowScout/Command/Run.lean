import ShowScout.Command.Documents
import ShowScout.Command.Rules
import ShowScout.Command.Shows

/-!
# Carrying out commands
-/

namespace ShowScout

/-- Carries out the command of a command line. -/
def Arguments.run (a : Arguments) (s : Surroundings) : CommandM Status := do
  let c ← ofExcept (Configuration.load (← get).files a)
  match a.command with
  | .check url => c.check url
  | .extract url => c.extract s url a.headed
  | .resolve => c.resolve s
  | .add url => c.add s url a.headed a.dryRun
  | .rulesList => c.listRules
  | .rulesEnable index => c.setRule index true
  | .rulesDisable index => c.setRule index false
  | .backup out => c.backup s.today out
  | .importFrom file overwrite only => c.importFrom file overwrite only
  | .share names out => c.share names out

end ShowScout
