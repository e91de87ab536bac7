import Dashboard.Event

/-!
# Undo

A response can carry undo actions, requests that reverse what it did. Those of
one response are undone together, and the newest batches are kept.
-/

namespace Dashboard

structure UndoAction where
  /-- The body of the request, in which quotes may be escaped. -/
  payload : String
  uri : String
  note : Option String
  events : List Event
  deriving Inhabited

namespace UndoAction

open Json

def record : Record UndoAction where
  name := "UndoAction"
  blank := ⟨"", "", none, []⟩
  fields :=
    [.required "json" .string fun payload a => { a with payload },
     .required "uri" .string fun uri a => { a with uri },
     .defaulted "infoMsg" (.optional .string) fun note a => { a with note },
     .defaulted "successEvents" (.list Event.reader) fun events a => { a with events }]
  closed := false

def reader : Reader UndoAction := record.reader

def unescaped : List Char → List Char
  | '&' :: 'q' :: 'u' :: 'o' :: 't' :: ';' :: rest => '"' :: unescaped rest
  | c :: rest => c :: unescaped rest
  | [] => []

def body (a : UndoAction) : String := String.ofList (unescaped a.payload.toList)

/-- The well-formed undo actions of one response or a list of them. -/
def collect (response : Json) : List UndoAction :=
  let rows := match response with
    | .arr rows => rows
    | .obj _ => [response]
    | _ => []
  rows.flatMap fun row =>
    (((row.get? "undoActions").bind Json.items?).getD []).filterMap fun entry =>
      (reader.ofJson entry).toOption

end UndoAction

/-- The newest batches of undo actions, the newest first and at most `capacity` of them. -/
structure UndoStack where
  batches : List (List UndoAction)
  capacity : Nat
  deriving Inhabited

namespace UndoStack

def defaultCapacity : Nat := 8

def empty (capacity : Nat) : UndoStack := ⟨[], capacity⟩

/-- The oldest batch falls out when there are too many. -/
def push (s : UndoStack) (batch : List UndoAction) : UndoStack :=
  { s with batches := (batch :: s.batches).take s.capacity }

def pop? (s : UndoStack) : Option (List UndoAction × UndoStack) :=
  match s.batches with
  | [] => none
  | batch :: rest => some (batch, { s with batches := rest })

def size (s : UndoStack) : Nat := s.batches.length

def isEmpty (s : UndoStack) : Bool := s.batches.isEmpty

end UndoStack

end Dashboard
