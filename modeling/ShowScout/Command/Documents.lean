import ShowScout.Command.Configuration
import ShowScout.Settings.Merge
import ShowScout.Settings.Share

/-!
# Commands on documents

Backups, imports and documents for others.
-/

namespace ShowScout

namespace Configuration

/-- Writes the settings to another file. If none is named, its name holds the date. -/
def backup (c : Configuration) (today : Date) (out : Option String) : CommandM Status := do
  let path := out.getD (backupFileName today)
  CommandM.writeFile (.unwrittenBackup path) path c.settings.toPrettyJson
  CommandM.say ("backup written to " ++ path)
  return .success

/-- Merges a document into the stored settings. No names stand for all names. -/
def importFrom (c : Configuration) (path : String) (overwrite : Bool) (only : List String) :
    CommandM Status := do
  if !(← get).files.holds path then throw (.noImportFile path)
  let imported ← ofExcept (loadSettings (← get).files path)
  let (settings, report) := c.settings.merge imported
    { duplicates := if overwrite then .overwrite else .skip
      only := if only.isEmpty then none else some only }
  c.save settings
  CommandM.say ("imported: " ++ toString report.added ++ " added, " ++
    toString report.overwritten ++ " overwritten, " ++ toString report.skipped ++ " skipped")
  return .success

/-- Writes a document with some of the sites, to a file or for the user. -/
def share (c : Configuration) (names : List String) (out : Option String) : CommandM Status := do
  let document ← ofExcept ((shareDocument c.settings.sites names).mapError .rule)
  match out with
  | some path =>
    CommandM.writeFile (.unwrittenShare path) path document
    CommandM.say ("shared rules written to " ++ path)
  | none => CommandM.say document
  return .success

end Configuration

end ShowScout
