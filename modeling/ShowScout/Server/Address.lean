import ShowScout.Server.Error
import ShowScout.Text.Blank
import ShowScout.Web.Url

/-!
# Addresses of a server

A user types an address in whatever form; `canonicalBase` gives the one base to which the paths of
the server's pages are appended.
-/

namespace ShowScout

/-- From where a server is reached: from its own network or from anywhere. -/
inductive AddressKind where
  | internal
  | external
deriving DecidableEq, Repr

namespace AddressKind

def name : AddressKind → String
  | internal => "internal"
  | external => "external"

/-- The scheme of an address that has none. Within a network, servers are rarely encrypted. -/
def defaultScheme : AddressKind → String
  | internal => "http"
  | external => "https"

end AddressKind

/-! ## Bases -/

/-- Whether an address says which scheme it has. -/
def hasScheme (address : List Char) : Bool :=
  let lower := address.map Char.toLower
  "http://".toList.isPrefixOf lower || "https://".toList.isPrefixOf lower

/-- The address with a scheme. -/
def withScheme (kind : AddressKind) (address : List Char) : List Char :=
  if hasScheme address then address
  else kind.defaultScheme.toList ++ "://".toList ++ address

/-- An address without query and without slashes at its end. -/
def baseText (u : Web.Url) : List Char :=
  u.originText ++ Text.dropEnd (· == '/') u.path

/-- The base of a typed address. -/
def canonicalBase (kind : AddressKind) (address : String) : Except LinkError String :=
  let typed := Text.trimChars address.toList
  let invalid (reason : String) := Except.error (.invalidAddress (.ofList typed) reason)
  if typed.isEmpty then invalid "address is empty"
  else
    match Web.Url.parse (withScheme kind typed) with
    | .ok url => .ok (.ofList (baseText url))
    | .error e => invalid e.message

/-- The typed addresses that are not blank, in the order in which they are tried. -/
def candidates (internal external : String) : List (AddressKind × String) :=
  [(.internal, internal), (.external, external)].filter fun (_, address) => !Text.isAllBlank address

/-! ## Pages of a server -/

/-- A server that has answered. -/
structure ResolvedAddress where
  base : String
  kind : AddressKind
deriving DecidableEq, Repr

/--
The page by which a server shows that it is there. It holds the key, so it is not for messages.
-/
def pingUrl (base key : String) : String :=
  base ++ "/api/" ++ key ++ "/?cmd=ping"

/-- A show that is to be added to a server. -/
structure AddShowRequest where
  title : String
  base : String
deriving DecidableEq, Repr

namespace AddShowRequest

def ofAddress (title : String) (address : ResolvedAddress) : AddShowRequest :=
  { title, base := address.base }

/-- The page on which a server looks for a new show. -/
def url (r : AddShowRequest) : String :=
  .ofList (Text.dropEnd (· == '/') r.base.toList ++ "/addShows/newShow/".toList)

end AddShowRequest

end ShowScout
