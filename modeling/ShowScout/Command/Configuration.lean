import ShowScout.Command.Basic
import ShowScout.CommandLine.Arguments
import ShowScout.Settings.Basic

/-!
# Configuration

What holds for a command: the stored settings, and what the command line says instead of them. Only
the settings are stored again, so that what the command line says never gets into their file.
-/

namespace ShowScout

structure Configuration where
  settingsPath : String
  settings : Settings
  internalAddress : String
  externalAddress : String
  apiKey : String
  poll : PollConfig
  /-- Milliseconds that a server has to answer. -/
  probeTimeout : Nat

/-- The given text or else the stored one, without the blanks around it. -/
def chosenText (given stored : Option String) : String :=
  Text.trim ((given <|> stored).getD "")

def Configuration.ofArguments (a : Arguments) (settings : Settings) : Configuration :=
  { settingsPath := a.settings
    settings
    internalAddress := chosenText a.internalAddress settings.internalAddress
    externalAddress := chosenText a.externalAddress settings.externalAddress
    apiKey := chosenText a.apiKey settings.apiKey
    poll := { maxAttempts := a.maxAttempts, interval := a.interval }
    probeTimeout := a.probeTimeout }

/-! ## Settings files -/

/-- The settings in a file. Where nothing is, they are empty. -/
def loadSettings (files : Files.Tree) (path : String) : Except CommandError Settings := do
  if !files.holds path then return {}
  let text ← (files.read path).mapError (.unreadableFile path)
  (Settings.ofJson text).mapError (.malformedFile path)

/-- Writes settings to a file, in a directory that is made if need be. -/
def saveSettings (path : String) (settings : Settings) : CommandM Unit := do
  if let some directory := Files.parent? path then
    CommandM.onFiles (.noDirectory directory) (Files.ensureDirectories directory)
  CommandM.writeFile (.unwrittenSettings path) path settings.toPrettyJson

namespace Configuration

def load (files : Files.Tree) (a : Arguments) : Except CommandError Configuration := do
  return ofArguments a (← loadSettings files a.settings)

/-- Stores other settings where the settings come from. -/
def save (c : Configuration) (settings : Settings) : CommandM Unit :=
  saveSettings c.settingsPath settings

/-- The rule for an address. -/
def ruleFor? (c : Configuration) (url : String) : Option Rule :=
  matchRule c.settings.rules url

end Configuration

end ShowScout
