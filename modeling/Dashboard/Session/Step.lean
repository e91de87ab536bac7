import Dashboard.Session.Load

/-!
# Carrying out commands

Commands are taken from the head of the queue one at a time. Carrying one out
can queue more, so `settle` takes the number of commands it may carry out; the
queue that it leaves is empty when that was enough.
-/

namespace Dashboard.Board

variable {σ : Type} (server : Server σ)

/-! ## Loads and finishes -/

/-- Sorts the groups of a load: known panels are filled, the others reported. The first url of a
group is loaded and the rest wait. -/
def planLoad (extras : List Params) :
    List (Option String × List String) → Session → List LoadRequest × Session
  | [], s => ([], s)
  | (panel, urls) :: groups, s =>
    match panel.bind s.slot?, urls with
    | some slot, first :: rest =>
      let waiting := if rest.isEmpty then s.waiting else s.waiting.remember extras
      let s := { s with waiting := waiting.replace slot.name rest }
      let (requests, s) := planLoad extras groups s
      (⟨slot.name, first, extras⟩ :: requests, s)
    | some _, [] => planLoad extras groups s
    | none, _ => planLoad extras groups (s.report (.unknownPanel panel "load()"))

def loadPages (pages : List Page) (extras : List Params) (b : Board σ) : Board σ :=
  let s := { b.session with waiting := b.session.waiting.forget }
  let (requests, s) := planLoad extras (Page.grouped pages) s
  load server requests { b with session := s }

/-- Loads what is next in a finished panel: after a cancel its default, else the next waiting url,
else its default again if its last activity showed something. -/
def finishPanel (slot : Slot) (cancel : Bool) (b : Board σ) : Board σ :=
  let default : LoadRequest := ⟨slot.name, slot.panel.defaultUrl, []⟩
  if cancel then
    load server [default] (b.onSession fun s => { s with waiting := s.waiting.clear slot.name })
  else
    match b.session.waiting.next? slot.name with
    | some (url, extras, waiting) =>
      load server [⟨slot.name, url, extras⟩] (b.onSession fun s => { s with waiting })
    | none =>
      match slot.mode with
      | .nonGui => b
      | .gui => load server [default] b

def finish (request : Finish) (b : Board σ) : Board σ :=
  let b := b.onSession fun s => s.display request.messages
  match request.panel.bind b.session.slot? with
  | some slot => b.finishPanel server slot request.cancel
  | none => b.onSession fun s => s.report (.unknownPanel request.panel "finished()")

/-! ## Undo -/

/-- What is shown for an undo action without a note of its own. -/
def undoNote : String := "Undo performed"

/-- The undo actions whose body is JSON, with that body; the others are reported. -/
def planUndo : List UndoAction → Session → List (UndoAction × Json) × Session
  | [], s => ([], s)
  | a :: rest, s =>
    match Json.ofText a.body with
    | .ok body =>
      let (requests, s) := planUndo rest s
      ((a, body) :: requests, s)
    | .error f =>
      planUndo rest
        (s.display [⟨.error, "Invalid undo request for " ++ a.uri ++ ": " ++ f.messageIn a.body⟩])

def postAll : List (UndoAction × Json) → Board σ → List (UndoAction × Except Refusal String) × Board σ
  | [], b => ([], b)
  | (a, body) :: rest, b =>
    let (answer, b) := b.post server a.uri body
    let (answers, b) := postAll rest b
    ((a, answer) :: answers, b)

/-- The messages of a response, when it is there to show any. -/
def responseMessages (text : String) : List Message :=
  match Json.ofText? text with
  | some response => if Message.isEnvelope response then Message.ofEnvelope response else []
  | none => []

def receiveUndo (a : UndoAction) (answer : Except Refusal String) (s : Session) : Session :=
  match answer with
  | .ok text =>
    let s := s.display (responseMessages text)
    let s := s.display [⟨.info, a.note.getD undoNote⟩]
    s.enqueue (a.events.map .send)
  | .error refusal => s.report (.refused refusal)

/-- Undo is offered no longer when nothing is left to undo. -/
def withdrawUndo (s : Session) : Session :=
  if s.undo.isEmpty then { s with screen := { s.screen with undoEnabled := false } } else s

def undoNewest (b : Board σ) : Board σ :=
  match b.session.undo.pop? with
  | none => b.onSession withdrawUndo
  | some (batch, undo) =>
    let (requests, s) := planUndo batch ({ b.session with undo }.clearMessages)
    let (answers, b) := postAll server requests { b with session := s }
    b.onSession fun s => withdrawUndo (answers.foldl (fun s (a, answer) => receiveUndo a answer s) s)

/-! ## Commands -/

def apply (c : Command) (b : Board σ) : Board σ :=
  match c with
  | .finish request => b.finish server request
  | .load pages extras => b.loadPages server pages extras
  | .send e => b.onSession (Session.deliver e)
  | .display messages => b.onSession fun s => s.display messages
  | .keepUndo response => b.onSession fun s => s.keepUndo response
  | .press id => b.onSession fun s => s.pressId id
  | .undo => b.undoNewest server

def step (b : Board σ) : Board σ :=
  match b.session.queue with
  | [] => b
  | c :: rest => { b with session := { b.session with queue := rest } }.apply server c

/-- Carries out commands until none is left, at most `fuel` of them. -/
def settle : (fuel : Nat) → Board σ → Board σ
  | 0, b => b
  | fuel + 1, b => if b.session.queue.isEmpty then b else settle fuel (b.step server)

end Dashboard.Board
