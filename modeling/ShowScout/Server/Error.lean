import ShowScout.Text.Duration

/-!
# Failures on the way to a server
-/

namespace ShowScout

inductive LinkError where
  /-- An address that a user typed has no reading. -/
  | invalidAddress (address reason : String)
  /-- No answer came. -/
  | transport (base reason : String)
  /-- An answer came that is not a success. -/
  | status (base : String) (code : Nat)
  /-- The answer did not come in time. -/
  | timeout (base : String) (nanoseconds : Nat)
  /-- The server did not take a show over. -/
  | handOff (reason : String)
deriving DecidableEq, Repr

def LinkError.message : LinkError → String
  | .invalidAddress address reason => "Invalid address '" ++ address ++ "': " ++ reason
  | .transport base reason => "Request to " ++ base ++ " failed: " ++ reason
  | .status base code => base ++ " answered with status " ++ toString code
  | .timeout base nanoseconds => base ++ " did not answer within " ++ Text.duration nanoseconds
  | .handOff reason => "Add-show hand-off failed: " ++ reason

end ShowScout
