import Dashboard.Json.Reader

/-!
# Events

An event has a type and fields of any kind. As a JSON object the type is a
member like the fields, and only objects are events.
-/

namespace Dashboard

structure Event where
  kind : String
  fields : Params
  deriving Inhabited

namespace Event

open Json

def buttonPressed : String := "BUTTON_PRESSED"

def json (e : Event) : Json := .object (e.fields.insert "type" (.str e.kind))

/-- The text of an event, its type first. -/
def text (e : Event) : String :=
  "\x7b" ++ membersText (("type", .str e.kind) :: e.fields.entries) ++ "\x7d"

/-- Reads members until the object ends, `kind` being the type if it has been read. -/
def readMembers (kind : Option String) (fields : Params) : Members → Except Fault Event
  | .close stop =>
    match kind with
    | some kind => .ok ⟨kind, fields⟩
    | none => .error (fault (.missing "type") stop)
  | .member key here value rest =>
    if key = "type" then
      match kind, Reader.string value with
      | some _, _ => .error (fault (.duplicate key) here)
      | none, .error f => .error (f.within (.member key))
      | none, .ok s => readMembers (some s) fields rest
    else
      match value.json with
      | .error f => .error (f.within (.member key))
      | .ok value => readMembers kind (fields.insert key value) rest
  | .unusableKey f _ => .error (f.within .unread)
  | .cut used _ => .error (used.within .unread)

def reader : Reader Event
  | .obj _ members => readMembers none .empty members
  | t => .error (t.mismatch (.record "DashboardEvent"))

def ofJson? (j : Json) : Option Event := (reader.ofJson j).toOption

end Event

end Dashboard
