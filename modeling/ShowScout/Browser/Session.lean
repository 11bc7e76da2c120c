import ShowScout.Browser.Options
import ShowScout.Files.Tree
import ShowScout.Page.Live
import ShowScout.Server.Address

/-!
# Browsers

A browser is started, connected to and then opens pages. Its profile is kept in a directory of its
own, which is gone when the browser is.
-/

namespace ShowScout

/-- A browser that is running. -/
structure BrowserSession where
  openPage : String → Except PageError LivePage
  /-- Fills in the form for a new show and starts the search. -/
  search : AddShowRequest → Except PageError Unit

/-- A way to start browsers and to connect to them. -/
structure Browser where
  connect : BrowserOptions → Except PageError BrowserSession

namespace Browser

/-- The browser to which no connection can be made. -/
def unreachable : Browser where
  connect _ := .error (.connection "Network is unreachable (os error 101)")

/-- Starts a browser. -/
def launch (b : Browser) (o : BrowserOptions) : Except PageError BrowserSession :=
  (b.connect o).mapError fun e => .launch ("Failed to launch browser: " ++ e.message)

end Browser

namespace BrowserSession

/-- Hands a show over to the server's own page, where the user carries on. -/
def handOff (s : BrowserSession) (request : AddShowRequest) : Except LinkError Unit :=
  (s.search request).mapError fun e => .handOff e.message

end BrowserSession

/-- The files that are left when a browser is gone that kept its profile at a path. -/
def Files.Tree.discardProfile (t : Files.Tree) (path : String) : Files.Tree :=
  t.removeDirectory path

end ShowScout
