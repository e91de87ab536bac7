import Dashboard.Json.Reader

/-!
# Pages

A page asks for an activity in a panel. A load lists pages for several panels
at once; `grouped` sorts them out by panel.
-/

namespace Dashboard

/-- An entry of a load. A missing panel is kept, so that the load can name it. -/
structure Page where
  url : Option String
  panel : Option String
  deriving DecidableEq, Repr, Inhabited

namespace Page

open Json

def record : Record Page where
  name := "PageRequest"
  blank := ⟨none, none⟩
  fields :=
    [.defaulted "url" (.optional .string) fun url p => { p with url },
     .defaulted "panel" (.optional .string) fun panel p => { p with panel }]
  closed := false

private def invalid (j : Json) : String := "load() called with invalid map " ++ j.text

def ofJson (j : Json) : Except String Page :=
  (record.reader.ofJson j).mapError fun f => invalid j ++ ": " ++ f.message

def listOfJson (j : Json) : Except String (List Page) :=
  match j with
  | .obj _ => (ofJson j).map ([·])
  | .arr items => items.mapM ofJson
  | _ => .error (invalid j)

/-! ## By panel -/

/-- Adds a url to the group of its panel; a panel without a group gets one at the end. -/
def addTo (panel : Option String) (url : String) :
    List (Option String × List String) → List (Option String × List String)
  | [] => [(panel, [url])]
  | (p, urls) :: rest =>
    if p = panel then (p, urls ++ [url]) :: rest else (p, urls) :: addTo panel url rest

/-- The urls of the pages by panel, panels in the order in which they come first. Pages without a
url are left out. -/
def grouped (pages : List Page) : List (Option String × List String) :=
  pages.foldl (fun groups page =>
    match page.url with
    | some url => if url.isEmpty then groups else addTo page.panel url groups
    | none => groups) []

end Page

end Dashboard
