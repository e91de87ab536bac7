import Dashboard.Api.Body
import Dashboard.Api.Route
import Dashboard.Scan.Service
import Dashboard.Session.Summary

/-!
# Answering requests

Every route that changes the board answers with the summary of the session
and the screen after the change.
-/

namespace Dashboard.Api

structure Request where
  method : String
  target : String
  contentType : Option String
  body : String
  deriving DecidableEq, Repr, Inhabited

inductive Content where
  | json (j : Json)
  | text (s : String)
  deriving Inhabited

structure Response where
  status : Nat
  content : Content
  deriving Inhabited

def Response.ok (j : Json) : Response := ⟨200, .json j⟩

def Response.refused (r : BodyRefusal) : Response := ⟨r.status, .text r.text⟩

/-- A board with the scanner that types into it. -/
structure Station (σ : Type) where
  board : Board σ
  buffer : ScanBuffer
  scanning : ScanService

namespace Station

variable {σ : Type} (server : Server σ) (fuel : Nat)

def stateJson (s : Station σ) : Json :=
  .ofMembers [("session", s.board.session.json), ("view", s.board.session.screen.json)]

def state (s : Station σ) : Response := .ok s.stateJson

def perform (op : Operation) (s : Station σ) : Station σ :=
  { s with board := s.board.perform server fuel op }

def scan (barcode : String) (s : Station σ) : Station σ :=
  { s with board := s.board.scan server fuel s.scanning barcode }

/-- All strokes are typed before the first of their barcodes is scanned. -/
def typeKeys (strokes : List KeyStroke) (s : Station σ) : Response × Station σ :=
  let (scanned, buffer) := ScanBuffer.strokes strokes s.buffer
  let s := scanned.foldl (fun s barcode => s.scan server fuel barcode) { s with buffer }
  (.ok (.ofMembers
    [("echo", .str buffer.text), ("scanned", .strings scanned), ("state", s.stateJson)]), s)

/-- Does what a route asks for with a body, and shows the state after it. -/
def withBody (request : Request) (read : Json.Reader α) (run : α → Station σ → Station σ)
    (s : Station σ) : Response × Station σ :=
  match readBody read request.contentType request.body with
  | .error refusal => (.refused refusal, s)
  | .ok a =>
    let s := run a s
    (s.state, s)

def performed (op : Operation) (s : Station σ) : Response × Station σ :=
  let s := s.perform server fuel op
  (s.state, s)

def badPath (text : String) : Response := ⟨400, .text text⟩

def route (request : Request) (s : Station σ) : Route → Response × Station σ
  | .health => (⟨200, .text "ok"⟩, s)
  | .state => (s.state, s)
  | .loading => (.ok (.ofMembers [("loadingPanels", .nat 0)]), s)
  | .load =>
    s.withBody request LoadBody.record.reader fun b => perform server fuel (.load b.pages b.extras)
  | .finished =>
    s.withBody request Json.Reader.json fun j => perform server fuel (.run (.finish (.ofJson j)))
  | .events => s.withBody request Event.reader fun e => perform server fuel (.run (.send e))
  | .press id =>
    match decodeParameter "id" id with
    | .error text => (badPath text, s)
    | .ok id => s.performed server fuel (.run (.press id))
  | .pressAt index =>
    match indexParameter "index" index with
    | .error text => (badPath text, s)
    | .ok index => s.performed server fuel (.pressAt index)
  | .activities =>
    s.withBody request PostBody.record.reader fun b =>
      perform server fuel (.postActivity b.data b.url b.panel b.arguments)
  | .parameters =>
    s.withBody request ParameterBody.record.reader fun b =>
      perform server fuel (.addParameter b.name b.value)
  | .undo => s.performed server fuel (.run .undo)
  | .scan => s.withBody request barcodeRecord.reader fun barcode => scan server fuel barcode
  | .keys =>
    match readBody strokesRecord.reader request.contentType request.body with
    | .error refusal => (.refused refusal, s)
    | .ok strokes => s.typeKeys server fuel strokes

/-- Answers a request; a request by the method `HEAD` gets no content. -/
def answer (request : Request) (s : Station σ) : Response × Station σ :=
  match Route.ofPath? (pathOf request.target) with
  | none => (⟨404, .text ""⟩, s)
  | some r =>
    if r.allows request.method then
      let (response, s) := s.route server fuel request r
      (if request.method = "HEAD" then { response with content := .text "" } else response, s)
    else (⟨405, .text ""⟩, s)

end Station

end Dashboard.Api
