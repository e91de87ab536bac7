import Dashboard.Page

/-!
# Buttons

A button loads activities into panels.
-/

namespace Dashboard

structure ButtonActivity where
  url : String
  panel : String
  deriving DecidableEq, Repr, Inhabited

structure Button where
  id : String
  label : String
  title : Option String
  css : Option String
  size : Double
  /-- Buttons stand in ascending order of their sequence numbers. -/
  sequence : Int
  activities : List ButtonActivity
  deriving DecidableEq, Repr, Inhabited

namespace Button

def defaultSize : Double := .ofInt 1

def pages (b : Button) : List Page := b.activities.map fun a => ⟨some a.url, some a.panel⟩

/-- A title and a style only appear when they are given. -/
def json (b : Button) : Json :=
  let optional := fun (name : String) (text : Option String) =>
    (text.map fun s => (name, Json.str s)).toList
  .ofMembers <|
    [("id", .str b.id), ("label", .str b.label)] ++ optional "title" b.title ++ optional "css" b.css
      ++ [("size", if b.size.isFinite then .real b.size else .null),
          ("sequence", .int b.sequence),
          ("activities", .arr (b.activities.map fun a =>
            .ofMembers [("url", .str a.url), ("panel", .str a.panel)]))]

/-- Buttons in their order on the board; those with one sequence number stay as they are. -/
def arranged (buttons : List Button) : List Button :=
  buttons.mergeSort fun a b => a.sequence ≤ b.sequence

end Button

end Dashboard
