import Dashboard.Config.Setting
import Dashboard.Decimal.Numeral
import Dashboard.Json.Printer
import Dashboard.Text.Quoted

/-!
# Reading typed settings

Scalars are converted to what a field needs where that makes sense. What does
not fit is reported with the way to it and, where a single value is to blame
that stands in no list, with the place that set it.
-/

namespace Dashboard.Config

/-- A step from a setting into a part of it. -/
inductive Step where
  | member (key : String)
  | item (index : Nat)
  deriving DecidableEq, Repr

inductive Problem where
  | wrong (found wanted : String) (origin : Option String)
  | misshapen (text : String)
  | missing (field : String)
  deriving DecidableEq, Repr

structure Fault where
  problem : Problem
  path : List Step
  deriving DecidableEq, Repr

/-! ## Messages -/

/-- A way through settings; the names before a list item and after it have no point between. -/
def pathText : List Step → (last : String) → String
  | [], last => last
  | .item i :: rest, last => "[" ++ toString i ++ "]" ++ pathText rest last
  | .member key :: rest, last =>
    let after := pathText rest last
    key ++ (if after.isEmpty || after.startsWith "[" then "" else ".") ++ after

def Fault.message (f : Fault) : String :=
  let key := if f.path.isEmpty then "" else " for key `" ++ pathText f.path "" ++ "`"
  match f.problem with
  | .wrong found wanted origin =>
    "invalid type: " ++ found ++ ", expected " ++ wanted ++ key
      ++ (origin.map (" in " ++ ·)).getD ""
  | .misshapen text => text ++ key
  | .missing field => "missing configuration field " ++ Text.quoted (pathText f.path field)

def Fault.inMember (key : String) (f : Fault) : Fault := { f with path := .member key :: f.path }

/-- A fault inside an item of a list, whose parts are not told apart by the place that set them. -/
def Fault.inItem (index : Nat) (f : Fault) : Fault :=
  { path := .item index :: f.path
    problem := match f.problem with
      | .wrong found wanted _ => .wrong found wanted none
      | other => other }

/-! ## Texts of values -/

/-- Positional always, and whole numbers without a point. -/
def plainLayout : Decimal.Layout where
  positional _ := true
  pointed := false

def doubleText (x : Double) : String :=
  if x.isFinite then x.text plainLayout
  else if x.isNaN then "NaN"
  else if x.isNegative then "-inf" else "inf"

/-- What a value is called where it cannot be converted. -/
def foundText : Setting → String
  | .scalar (.bool b) _ => "boolean `" ++ toString b ++ "`"
  | .scalar (.num (.int n)) _ => "64-bit integer `" ++ toString n ++ "`"
  | .scalar (.num (.real x)) _ => "floating point `" ++ doubleText x ++ "`"
  | .scalar (.str s) _ => "string " ++ Text.quoted s
  | .scalar _ _ => "unit value"
  | .list _ _ => "sequence"
  | .table _ _ => "map"

/-- What a value is called where its shape is wrong. -/
def shapeText : Setting → String
  | .scalar (.num (.int n)) _ => "integer `" ++ toString n ++ "`"
  | .scalar (.num (.real x)) _ =>
    let text := doubleText x
    "floating point `" ++ text ++ (if x.isFinite && !text.contains '.' then ".0" else "") ++ "`"
  | s => foundText s

def Setting.origin : Setting → Option String
  | .scalar _ origin => origin
  | .list _ origin => origin
  | .table _ origin => origin

/-! ## Readers -/

abbrev Reader (α : Type) := Setting → Except Fault α

namespace Reader

private def wrong (wanted : String) (s : Setting) : Fault :=
  ⟨.wrong (foundText s) wanted s.origin, []⟩

private def misshapen (wanted : String) (s : Setting) : Fault :=
  ⟨.misshapen ("invalid type: " ++ shapeText s ++ ", expected " ++ wanted), []⟩

def string : Reader String
  | .scalar (.str s) _ => .ok s
  | .scalar (.bool b) _ => .ok (toString b)
  | .scalar (.num (.int n)) _ => .ok (toString n)
  | .scalar (.num (.real x)) _ => .ok (doubleText x)
  | s => .error (wrong "a string" s)

def spelledBool? (text : String) : Option Bool :=
  let word := String.ofList (text.toList.map Char.toLower)
  if word ∈ ["true", "on", "yes"] then some true
  else if word ∈ ["false", "off", "no"] then some false
  else none

/-- Digits after an optional sign, which is a minus only where `signed`. -/
def spelledInt? (signed : Bool) (text : String) : Option Int :=
  let (negative, digits) := match text.toList with
    | '-' :: rest => (true, rest)
    | '+' :: rest => (false, rest)
    | all => (false, all)
  if digits.isEmpty || !digits.all Char.isDigit || (negative && !signed) then none
  else some (if negative then -(Decimal.value digits : Int) else Decimal.value digits)

/-- The integer nearest to a double within the bounds; a half goes away from zero. -/
def rounded (low high : Int) (x : Double) : Int :=
  if x.isNaN then 0
  else
    let y := x.toFloat.round
    if y ≤ Float.ofInt low then low
    else if Float.ofInt high ≤ y then high
    else if x.isNegative then -((-y).toUInt64.toNat : Int) else y.toUInt64.toNat

/-- An integer within bounds, whose name is for integers that are outside. -/
def integer (low high : Int) (name : String) : Reader Int
  | s@(.scalar (.num (.int n)) _) => if low ≤ n ∧ n ≤ high then .ok n else .error (wrong name s)
  | .scalar (.num (.real x)) _ => .ok (rounded low high x)
  | .scalar (.bool b) _ => .ok (if b then 1 else 0)
  | s@(.scalar (.str text) _) =>
    match spelledBool? text with
    | some b => .ok (if b then 1 else 0)
    | none =>
      match spelledInt? (low < 0) text with
      | some n => if low ≤ n ∧ n ≤ high then .ok n else .error (wrong "an integer" s)
      | none => .error (wrong "an integer" s)
  | s => .error (wrong "an integer" s)

def u64 : Reader Nat := fun s =>
  (integer 0 0xFFFFFFFFFFFFFFFF "an unsigned 64 bit or less integer" s).map Int.toNat

def i32 : Reader Int := fun s => do
  let n ← integer (-0x8000000000000000) 0x7FFFFFFFFFFFFFFF "an signed 64 bit or less integer" s
  if -0x80000000 ≤ n ∧ n < 0x80000000 then return n
  else throw ⟨.wrong ("64-bit integer `" ++ toString n ++ "`") "an signed 32 bit integer" none, []⟩

def double : Reader Double
  | .scalar (.num (.real x)) _ => .ok x
  | .scalar (.num (.int n)) _ => .ok (.ofInt n)
  | .scalar (.bool b) _ => .ok (.ofInt (if b then 1 else 0))
  | s@(.scalar (.str text) _) =>
    match spelledBool? text with
    | some b => .ok (.ofInt (if b then 1 else 0))
    | none =>
      match Decimal.Double.ofText? text with
      | some x => .ok x
      | none => .error (wrong "a floating point" s)
  | s => .error (wrong "a floating point" s)

def optional (read : Reader α) : Reader (Option α)
  | .scalar .null _ => .ok none
  | s => (read s).map some

def items (read : Reader α) (index : Nat) : List Setting → Except Fault (List α)
  | [] => .ok []
  | s :: rest =>
    match read s with
    | .error f => .error (f.inItem index)
    | .ok a => (items read (index + 1) rest).map (a :: ·)

def list (read : Reader α) : Reader (List α)
  | .list is _ => items read 0 is
  | s => .error (misshapen "a sequence" s)

mutual

/-- A setting as a plain value. Doubles that are no numbers become null. -/
def plain : Setting → Json
  | .scalar (.num (.real x)) _ => if x.isFinite then .real x else .null
  | .scalar value _ => value
  | .list items _ => .arr (plainItems items)
  | .table members _ => .ofMembers (plainMembers members)

def plainItems : List Setting → List Json
  | [] => []
  | s :: rest => plain s :: plainItems rest

def plainMembers : List (String × Setting) → List (String × Json)
  | [] => []
  | (key, s) :: rest => (key, plain s) :: plainMembers rest

end

def params : Reader Params
  | .table members _ => .ok (.ofList (plainMembers members))
  | s => .error (misshapen "a map" s)

end Reader

/-! ## Records -/

/-- A field of a record that is built up from a blank one. -/
structure Field (ρ : Type) where
  name : String
  put : Setting → ρ → Except Fault ρ
  /-- Whether a table without the field is refused. -/
  needed : Bool
  /-- Whether a list that ends before the field is refused. -/
  neededInList : Bool

namespace Field

def ofReader (name : String) (read : Reader α) (set : α → ρ → ρ) (needed neededInList : Bool) :
    Field ρ :=
  { name, needed, neededInList, put := fun s r => (read s).map fun a => set a r }

def required (name : String) (read : Reader α) (set : α → ρ → ρ) : Field ρ :=
  ofReader name read set true true

def defaulted (name : String) (read : Reader α) (set : α → ρ → ρ) : Field ρ :=
  ofReader name read set false false

end Field

structure Record (ρ : Type) where
  name : String
  blank : ρ
  fields : List (Field ρ)

namespace Record

variable {ρ : Type}

/-- Reads the members of a table that are fields; others are passed over. -/
def readMembers (r : Record ρ) (built : ρ) : List (String × Setting) → Except Fault ρ
  | [] => .ok built
  | (key, s) :: rest =>
    match r.fields.find? fun f => f.name = key with
    | none => r.readMembers built rest
    | some f =>
      match f.put s built with
      | .error fault => .error (fault.inMember key)
      | .ok built => r.readMembers built rest

/-- Reads items as fields from number `index` on; what follows the last field is passed over. -/
def readItems (r : Record ρ) (index : Nat) (built : ρ) :
    List (Field ρ) → List Setting → Except Fault ρ
  | [], _ => .ok built
  | f :: fields, s :: rest =>
    match f.put s built with
    | .error fault => .error (fault.inItem index)
    | .ok built => r.readItems (index + 1) built fields rest
  | f :: fields, [] =>
    if f.neededInList then
      .error ⟨.misshapen ("invalid length " ++ toString index ++ ", expected struct " ++ r.name
        ++ " with " ++ toString r.fields.length
        ++ (if r.fields.length = 1 then " element" else " elements")), []⟩
    else r.readItems (index + 1) built fields []

def reader (r : Record ρ) : Reader ρ
  | .table members _ => do
    let built ← r.readMembers r.blank members
    match r.fields.find? fun f => f.needed && (Entries.get? f.name members).isNone with
    | some f => throw ⟨.missing f.name, []⟩
    | none => return built
  | .list items _ => r.readItems 0 r.blank r.fields items
  | s => .error ⟨.misshapen ("invalid type: " ++ shapeText s ++ ", expected struct " ++ r.name), []⟩

end Record

end Dashboard.Config
