import Dashboard.Text.Percent
import Dashboard.Text.Quoted
import Dashboard.Text.Search

/-!
# Routes

The addresses at which the board is offered, and what each is for.
-/

namespace Dashboard.Api

inductive Route where
  | health
  | state
  | loading
  | load
  | finished
  | events
  | press (id : String)
  | pressAt (index : String)
  | activities
  | parameters
  | undo
  | scan
  | keys
  deriving DecidableEq, Repr

namespace Route

/-- The route of a path without its query; a path has exactly one spelling. -/
def ofPath? (path : List Char) : Option Route :=
  match (Text.splitBy (· = '/') path).map String.ofList with
  | ["", "healthz"] => some .health
  | ["", "dashboard", "state"] => some .state
  | ["", "dashboard", "loading"] => some .loading
  | ["", "dashboard", "load"] => some .load
  | ["", "dashboard", "finished"] => some .finished
  | ["", "dashboard", "events"] => some .events
  | ["", "dashboard", "buttons", id, "click"] => some (.press id)
  | ["", "dashboard", "buttons", "by-index", index, "click"] => some (.pressAt index)
  | ["", "dashboard", "activities"] => some .activities
  | ["", "dashboard", "parameters"] => some .parameters
  | ["", "dashboard", "undo"] => some .undo
  | ["", "dashboard", "scan"] => some .scan
  | ["", "dashboard", "keys"] => some .keys
  | _ => none

/-- Routes that are only looked at; all others change the board. -/
def isRead : Route → Bool
  | .health | .state | .loading => true
  | _ => false

def allows (r : Route) (method : String) : Bool :=
  if r.isRead then method = "GET" || method = "HEAD" else method = "POST"

end Route

def pathOf (target : String) : List Char := target.toList.takeWhile fun c => c ≠ '?' && c ≠ '#'

/-! ## Parameters in paths -/

def decodeParameter (name text : String) : Except String String :=
  match Text.Percent.decode? text with
  | some s => .ok s
  | none => .error ("Invalid URL: Invalid UTF-8 in `" ++ name ++ "`")

/-- A number of up to 64 bits, in digits after an optional plus sign. -/
def word? (text : String) : Option Nat :=
  let digits := match text.toList with
    | '+' :: rest => rest
    | all => all
  if digits.isEmpty || !digits.all Char.isDigit then none
  else
    let n := digits.foldl (fun n c => n * 10 + (c.toNat - 48)) 0
    if n < 0x10000000000000000 then some n else none

def indexParameter (name text : String) : Except String Nat := do
  let text ← decodeParameter name text
  match word? text with
  | some n => return n
  | none => throw ("Invalid URL: Cannot parse `" ++ Text.quoted text ++ "` to a `u64`")

end Dashboard.Api
