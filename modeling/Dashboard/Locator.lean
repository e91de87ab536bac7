import Dashboard.Json.Printer
import Dashboard.Text.Percent
import Dashboard.Text.Search

/-!
# Locators and requests

An activity is named by a locator, a server-relative address. The address that
is requested is the locator with tags for the panel, its variable and the page
that asks, followed by one argument per parameter in ascending order of the
names.
-/

namespace Dashboard

namespace Json

/-- A value as it stands in an argument: texts as they are, null as nothing. -/
def argument : Json → String
  | .str s => s
  | .null => ""
  | j => j.text

end Json

namespace Locator

/-- Whether a locator has a query already. A question mark in front of everything opens none. -/
def hasQuery (locator : String) : Bool :=
  match locator.toList with
  | [] => false
  | c :: rest => c != '?' && '?' ∈ rest

/-- The locator with one more argument; an empty locator stays empty. -/
def withArgument (locator name value : String) : String :=
  if locator.isEmpty then locator
  else locator ++ (if hasQuery locator then "&" else "?") ++ name ++ "=" ++ Text.Percent.encode value

def withArguments (locator : String) : List (String × Json) → String
  | [] => locator
  | (name, value) :: rest => withArguments (withArgument locator name value.argument) rest

def tagged (locator panel page : String) : String :=
  let locator := withArgument locator "_panel" panel
  let locator := withArgument locator "_variable" ("_" ++ panel)
  withArgument locator "_pageSrc" page

def request (locator panel page : String) (params : Params) : String :=
  withArguments (tagged locator panel page) params.entries

end Locator

namespace Params

/-- The parameters of a load: those of `extras` win over `base`, later ones over earlier ones, and
those of the page itself only fill in. -/
def gather (base : Params) (extras : List Params) (page : Params) : Params :=
  page.merge (extras.foldl Dict.merge base)

end Params

end Dashboard
