import Dashboard.Dict
import Dashboard.Decimal.Double

/-!
# JSON values

Integers from `-2 ^ 63` to `2 ^ 64 - 1` are kept as they are, every other
number as a double. The members of an object stand in ascending order of
their keys, each key once.
-/

namespace Dashboard

inductive Number where
  | int (n : Int)
  | real (x : Double)
  deriving DecidableEq, Repr, Inhabited

inductive Json where
  | null
  | bool (b : Bool)
  | num (n : Number)
  | str (s : String)
  | arr (items : List Json)
  | obj (members : List (String × Json))
  deriving Repr, Inhabited

/-- Named parameters of an activity, a request or an event. -/
abbrev Params := Dict Json

namespace Json

def int (n : Int) : Json := .num (.int n)

def nat (n : Nat) : Json := int n

def real (x : Double) : Json := .num (.real x)

def object (d : Params) : Json := .obj d.entries

/-- The object with these members; of two members with one key the later one stays. -/
def ofMembers (members : List (String × Json)) : Json := object (Dict.ofList members)

def strings (texts : List String) : Json := .arr (texts.map .str)

def ofOption (f : α → Json) : Option α → Json
  | none => .null
  | some a => f a

/-! ## Looking into a value -/

def string? : Json → Option String
  | .str s => some s
  | _ => none

def bool? : Json → Option Bool
  | .bool b => some b
  | _ => none

def items? : Json → Option (List Json)
  | .arr items => some items
  | _ => none

def members? : Json → Option (List (String × Json))
  | .obj members => some members
  | _ => none

def params? : Json → Option Params
  | .obj members => some (Dict.ofList members)
  | _ => none

def isObject (j : Json) : Bool := j.members?.isSome

def isNull : Json → Bool
  | .null => true
  | _ => false

def get? (j : Json) (key : String) : Option Json :=
  match j with
  | .obj members => Entries.get? key members
  | _ => none

/-- The member with this key, null where there is none. -/
def field (j : Json) (key : String) : Json := (j.get? key).getD .null

end Json

end Dashboard
