import Dashboard.Locator
import Dashboard.Session.Basic

/-!
# Loads

A load is prepared for all its panels, then fetched, then installed, each in
the order of the requests. A failure concerns one panel and leaves the others
alone.
-/

namespace Dashboard

/-- The server as the board sees it, with a state that its answers may depend on. -/
structure Server (σ : Type) where
  get : (url : String) → σ → Except Refusal String × σ
  post : (url : String) → (body : Json) → σ → Except Refusal String × σ

/-- A session and the state of the server it talks to. -/
structure Board (σ : Type) where
  session : Session
  server : σ
  deriving Inhabited

structure LoadRequest where
  panel : String
  locator : String
  extras : List Params
  deriving Inhabited

/-- A request ready to be sent, or answered from the cache. -/
structure Prepared where
  panel : String
  url : String
  kept : Option String
  deriving DecidableEq, Inhabited

/-- What a request brought: a definition and whether it came from the cache. -/
structure Fetched where
  panel : String
  url : String
  source : Except Refusal (String × Bool)

namespace Session

def address (s : Session) (r : LoadRequest) : String :=
  Locator.request r.locator r.panel s.pagePath (Params.gather s.params r.extras s.pageQuery)

/-- Requests without a locator are left out; the panels of the others begin to load. -/
def prepare : List LoadRequest → Session → List Prepared × Session
  | [], s => ([], s)
  | r :: rest, s =>
    if r.locator.isEmpty then prepare rest s
    else
      let url := s.address r
      let (prepared, s') := prepare rest (s.changeSlot r.panel Slot.startLoading)
      (⟨r.panel, url, s.cache.find? url⟩ :: prepared, s')

def receive (f : Fetched) (s : Session) : Session :=
  match f.source with
  | .ok (source, fromCache) => s.install f.panel f.url source fromCache
  | .error refusal => (s.changeSlot f.panel Slot.abandonLoading).report (.refused refusal)

end Session

namespace Board

variable {σ : Type}

def onSession (b : Board σ) (f : Session → Session) : Board σ := { b with session := f b.session }

def fetch (server : Server σ) : List Prepared → Board σ → List Fetched × Board σ
  | [], b => ([], b)
  | p :: rest, b =>
    match p.kept with
    | some source =>
      let (fetched, b) := fetch server rest b
      (⟨p.panel, p.url, .ok (source, true)⟩ :: fetched, b)
    | none =>
      let (answer, state) := server.get p.url b.server
      let (fetched, b) := fetch server rest ⟨b.session.note [.fetched p.url], state⟩
      (⟨p.panel, p.url, answer.map (·, false)⟩ :: fetched, b)

def load (server : Server σ) (requests : List LoadRequest) (b : Board σ) : Board σ :=
  let (prepared, session) := b.session.prepare requests
  let (fetched, b) := fetch server prepared { b with session }
  b.onSession fun s => fetched.foldl (fun s f => s.receive f) s

def post (server : Server σ) (url : String) (body : Json) (b : Board σ) :
    Except Refusal String × Board σ :=
  let (answer, state) := server.post url body b.server
  (answer, ⟨b.session.note [.posted url body], state⟩)

end Board

end Dashboard
