import Dashboard.Message

/-!
# The screen

What the board shows: the content of each panel and how often it was drawn,
the messages, and whether undo is offered.
-/

namespace Dashboard

structure Screen where
  panels : Dict Json
  drawn : Dict Nat
  messages : List Message
  undoEnabled : Bool
  deriving Inhabited

namespace Screen

def blank : Screen := ⟨.empty, .empty, [], false⟩

def drawnTimes (s : Screen) (panel : String) : Nat := (s.drawn.get? panel).getD 0

def draw (s : Screen) (panel : String) (content : Json) : Screen :=
  { s with
    panels := s.panels.insert panel content
    drawn := s.drawn.insert panel (s.drawnTimes panel + 1) }

def display (s : Screen) (messages : List Message) : Screen :=
  { s with messages := s.messages ++ messages }

def clear (s : Screen) : Screen := { s with messages := [] }

def json (s : Screen) : Json :=
  .ofMembers
    [("panels", .object s.panels),
     ("renderCounts", .object (s.drawn.map .nat)),
     ("messages", .arr (s.messages.map Message.json)),
     ("undoEnabled", .bool s.undoEnabled)]

end Screen

end Dashboard
