import Dashboard.Json.Basic

/-!
# Layers of settings

Settings form a tree of tables. A layer is put over what is there: tables are
merged, everything else replaces what it covers. Every value knows where it
was set.
-/

namespace Dashboard.Config

/-- A value of the configuration and, where it is known, the place that set it. -/
inductive Setting where
  | scalar (value : Json) (origin : Option String)
  | list (items : List Setting) (origin : Option String)
  | table (members : List (String × Setting)) (origin : Option String)
  deriving Inhabited

/-- A step on the way to a setting. An index below zero counts from the end. -/
inductive Segment where
  | key (name : String)
  | index (i : Int)
  deriving DecidableEq, Repr

namespace Setting

def nothing : Setting := .scalar .null none

def emptyTable : Setting := .table [] none

mutual

def ofJson (origin : String) : Json → Setting
  | .arr items => .list (ofItems origin items) (some origin)
  | .obj members => .table (ofMembers origin members) (some origin)
  | .null => .scalar .null (some origin)
  | .bool b => .scalar (.bool b) (some origin)
  | .num n => .scalar (.num n) (some origin)
  | .str s => .scalar (.str s) (some origin)

def ofItems (origin : String) : List Json → List Setting
  | [] => []
  | item :: rest => ofJson origin item :: ofItems origin rest

def ofMembers (origin : String) : List (String × Json) → List (String × Setting)
  | [] => []
  | (key, value) :: rest => (key, ofJson origin value) :: ofMembers origin rest

end

def members : Setting → List (String × Setting)
  | .table members _ => members
  | _ => []

def items : Setting → List Setting
  | .list items _ => items
  | _ => []

/-! ## Layers -/

mutual

def overlay : (new old : Setting) → Setting
  | .table members _, old => .table (overlayMembers members old.members) none
  | new, _ => new

def overlayMembers : (new : List (String × Setting)) → (old : List (String × Setting)) →
    List (String × Setting)
  | [], old => old
  | (key, value) :: rest, old =>
    overlayMembers rest (Entries.insert key (overlay value ((Entries.get? key old).getD nothing)) old)

end

/-- The items with the one at `i` changed; missing items are filled in with nothing. -/
def changeItem (i : Int) (f : Setting → Setting) (items : List Setting) : List Setting :=
  let place : Int := if i < 0 then (items.length : Int) + i else i
  let items := if place < 0 then List.replicate place.natAbs nothing ++ items
    else items ++ List.replicate (place.toNat + 1 - items.length) nothing
  items.modify place.toNat f

/-- Changes what a path leads to. What is in the way of the path is replaced. -/
def change (f : Setting → Setting) : List Segment → Setting → Setting
  | [], s => f s
  | .key name :: path, s =>
    let origin := match s with
      | .table _ origin => origin
      | _ => none
    let old := (Entries.get? name s.members).getD nothing
    .table (Entries.insert name (change f path old) s.members) origin
  | .index i :: path, s =>
    let origin := match s with
      | .list _ origin => origin
      | _ => none
    .list (changeItem i (change f path) s.items) origin

def set (s : Setting) (path : List Segment) (value : Setting) : Setting := change (overlay value) path s

end Setting

/-! ## Paths -/

namespace Path

def isNameChar (c : Char) : Bool := c.isAlphanum || c = '_' || c = '-'

private def index? (digits : List Char) : Option Int :=
  let (negative, digits) := match digits with
    | '-' :: rest => (true, rest)
    | all => (false, all)
  if digits.isEmpty || !digits.all Char.isDigit then none
  else
    let n : Nat := digits.foldl (fun n c => n * 10 + (c.toNat - 48)) 0
    if n < 0x8000000000000000 then some (if negative then -(n : Int) else n) else none

/-- Reads the rest of a path, `name` being the letters of the name that is being read. -/
def readName (name : List Char) : List Char → Option (List Segment)
  | [] => if name.isEmpty then none else some [.key (String.ofList name.reverse)]
  | '.' :: rest =>
    if name.isEmpty then none
    else (readName [] rest).map (.key (String.ofList name.reverse) :: ·)
  | '[' :: rest =>
    if name.isEmpty then none
    else (readIndex [] rest).map (.key (String.ofList name.reverse) :: ·)
  | c :: rest => if isNameChar c then readName (c :: name) rest else none
where
  /-- Reads the rest of a path inside brackets. -/
  readIndex (digits : List Char) : List Char → Option (List Segment)
    | [] => none
    | [']'] => (index? digits.reverse).map ([.index ·])
    | ']' :: '.' :: rest => do
      let i ← index? digits.reverse
      return .index i :: (← readName [] rest)
    | ']' :: '[' :: rest => do
      let i ← index? digits.reverse
      return .index i :: (← readIndex [] rest)
    | c :: rest => readIndex (c :: digits) rest

/-- A path of names and indices, as in `a.b[0].c`. A text that is none is one name. -/
def ofText (text : String) : List Segment :=
  (readName [] text.toList).getD [.key text]

end Path

/-- The settings of a table put over others, its keys read as paths. -/
def Setting.layer (members : List (String × Setting)) (s : Setting) : Setting :=
  members.foldl (fun s (key, value) => s.set (Path.ofText key) value) s

end Dashboard.Config
