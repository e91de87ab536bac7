import Dashboard.Config.Setting
import Dashboard.Decimal.Numeral

/-!
# Settings from the environment

A variable `DASHBOARD__A__B` sets `a.b`, whatever the case of its letters. Its
text is read as a truth value, an integer or a float if it is one.
-/

namespace Dashboard.Config.Environment

def origin : String := "the environment"

/-- What the names of all variables of the board begin with. -/
def opening : List Char := "dashboard__".toList

def pointed : List Char → List Char
  | '_' :: '_' :: rest => '.' :: pointed rest
  | c :: rest => c :: pointed rest
  | [] => []

def integer? (text : List Char) : Option Int :=
  let (negative, digits) := match text with
    | '-' :: rest => (true, rest)
    | '+' :: rest => (false, rest)
    | all => (false, all)
  if digits.isEmpty || !digits.all Char.isDigit then none
  else
    let n : Int := if negative then -(Decimal.value digits : Int) else Decimal.value digits
    if -0x8000000000000000 ≤ n ∧ n < 0x8000000000000000 then some n else none

def value (text : String) : Json :=
  let lower := String.ofList (text.toList.map Char.toLower)
  if lower = "true" then .bool true
  else if lower = "false" then .bool false
  else
    match integer? text.toList, Decimal.Double.ofText? text with
    | some n, _ => .int n
    | none, some x => .real x
    | none, none => .str text

/-- The path that a variable sets, when it is one of the board's. -/
def path? (name : String) : Option String :=
  let lower := name.toList.map Char.toLower
  if opening.isPrefixOf lower then some (String.ofList (pointed (lower.drop opening.length)))
  else none

def settings (named : List (String × String)) : List (String × Setting) :=
  named.filterMap fun (name, text) =>
    (path? name).map fun path => (path, .scalar (value text) (some origin))

end Dashboard.Config.Environment
