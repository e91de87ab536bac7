import Dashboard.Event
import Dashboard.Message
import Dashboard.Page

/-!
# Commands

What an activity asks of the board. Commands are queued and carried out in
order once the activity's capability has returned.
-/

namespace Dashboard

structure Finish where
  panel : Option String
  cancel : Bool
  messages : List Message
  deriving DecidableEq, Repr, Inhabited

namespace Finish

def ofPanel (panel : String) : Finish := ⟨some panel, false, []⟩

/-- A panel's name, or an object of options. -/
def ofJson (j : Json) : Finish :=
  match j with
  | .str panel => ofPanel panel
  | .obj _ =>
    { panel := (j.get? "panel").bind Json.string?
      cancel := ((j.get? "cancel").bind Json.bool?).getD false
      messages := Message.flat j }
  | _ => ⟨none, false, []⟩

end Finish

inductive Command where
  | finish (request : Finish)
  | load (pages : List Page) (extras : List Params)
  | send (event : Event)
  | display (messages : List Message)
  | keepUndo (response : Json)
  | press (button : String)
  | undo
  deriving Inhabited

namespace Command

def event? : Command → Option Event
  | .send e => some e
  | _ => none

end Command

end Dashboard
