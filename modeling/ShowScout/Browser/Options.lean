/-!
# Options of browsers

How a browser is started.
-/

namespace ShowScout

structure BrowserOptions where
  /-- Whether the browser runs without a visible window. -/
  headless : Bool := true
  /-- The width and height of the window. -/
  window : Nat × Nat := (1280, 900)
  arguments : List String := []
deriving DecidableEq, Repr

namespace BrowserOptions

/-- A browser with a visible window, in which the user can carry on. -/
def headed : BrowserOptions := { headless := false }

def setHeadless (o : BrowserOptions) (headless : Bool) : BrowserOptions :=
  { o with headless }

def addArgument (o : BrowserOptions) (argument : String) : BrowserOptions :=
  { o with arguments := o.arguments ++ [argument] }

/-- What a browser is told when it is started, besides whether it is headless. -/
def switches (o : BrowserOptions) : List String :=
  ("--window-size=" ++ toString o.window.1 ++ "," ++ toString o.window.2) ::
    o.arguments ++ ["--no-first-run", "--no-default-browser-check"]

end BrowserOptions

end ShowScout
