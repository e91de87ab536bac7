import Dashboard.Json.Printer
import Dashboard.Session.Load
import Dashboard.Url.Reader

/-!
# The server behind the board

Activities, undo and scan requests go to one server. A locator is relative to
its address unless it is an absolute address itself; a reply is used only when
its status says that the request succeeded.
-/

namespace Dashboard

structure Backend where
  /-- The address, without slashes at its end. -/
  base : String
  deriving DecidableEq, Repr, Inhabited

namespace Backend

def ofAddress (address : String) : Backend :=
  ⟨String.ofList (Text.dropEnd (· = '/') address.toList)⟩

def resolve (b : Backend) (locator : String) : String :=
  if locator.startsWith "http://" || locator.startsWith "https://" then locator
  else if locator.startsWith "/" then b.base ++ locator
  else b.base ++ "/" ++ locator

/-! ## Requests -/

structure Request where
  method : String
  target : Url
  headers : List (String × String)
  body : String
  deriving Repr, Inhabited

def headers : List (String × String) :=
  [("accept", "application/json"), ("cache-control", "no-cache"),
    ("x-requested-with", "XMLHttpRequest")]

/-- Whether a request can be sent to an address: over the web, to a host of plain characters. -/
def isReachable (u : Url) : Bool :=
  (u.scheme = "http" || u.scheme = "https") &&
    (match u.authority with
      | some a => !a.host.text.toList.any ("\"\x60\x7b\x7d".contains ·)
      | none => false)

/-- Why an address could not be made out, as shown to the user. -/
def unreachable : Option Url → String
  | none => "builder error"
  | some u => "builder error for url (" ++ u.text ++ ")"

def target (b : Backend) (locator : String) : Except Refusal Url :=
  match Url.ofString? (b.resolve locator) with
  | some u => if isReachable u then .ok u else .error (.network locator (unreachable (some u)))
  | none => .error (.network locator (unreachable none))

def get (b : Backend) (locator : String) : Except Refusal Request :=
  (b.target locator).map fun target => ⟨"GET", target, headers, ""⟩

def post (b : Backend) (locator : String) (body : Json) : Except Refusal Request :=
  (b.target locator).map fun target =>
    ⟨"POST", target, headers ++ [("content-type", "application/json")], body.text⟩

/-! ## Replies -/

inductive Reply where
  | answer (status : Nat) (body : String)
  | closed
  deriving DecidableEq, Repr, Inhabited

/-- A byte order mark in front of a text is not part of it. -/
def withoutMark (body : String) : String :=
  match body.toList with
  | '\ufeff' :: rest => String.ofList rest
  | _ => body

/-- What a reply says; some have no body, whatever is sent after them. -/
def content (status : Nat) (body : String) : String :=
  if status = 101 ∨ status = 204 ∨ status = 304 then "" else withoutMark body

/-- What a reply to a request means to the one who asked for the locator. A status below 200 only
announces an answer, except for the one that ends the exchange. -/
def receive (locator : String) (request : Request) : Reply → Except Refusal String
  | .closed =>
    .error (.network locator ("error sending request for url (" ++ request.target.text ++ ")"))
  | .answer status body =>
    if status < 200 ∧ status ≠ 101 then
      .error (.network locator ("error sending request for url (" ++ request.target.text ++ ")"))
    else if 200 ≤ status ∧ status < 300 then .ok (content status body)
    else .error (.status locator status (content status body))

/-- The server as the board sees it, over a network that carries requests. -/
def server {σ : Type} (b : Backend) (network : Request → σ → Reply × σ) : Server σ where
  get locator s :=
    match b.get locator with
    | .error refusal => (.error refusal, s)
    | .ok request => let (reply, s) := network request s; (receive locator request reply, s)
  post locator body s :=
    match b.post locator body with
    | .error refusal => (.error refusal, s)
    | .ok request => let (reply, s) := network request s; (receive locator request reply, s)

end Backend

end Dashboard
