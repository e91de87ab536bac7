import Dashboard.Json.Tree

/-!
# Reading typed values

A reader takes from a tree what it needs or says what is wrong. Records are
read from an object, or from a list of their fields in declaration order.
-/

namespace Dashboard.Json

abbrev Reader (α : Type) := Tree → Except Fault α

/-- The fault of a reader that needs something else than what the tree begins with. -/
def Tree.mismatch (wanted : Wanted) : Tree → Fault
  | .null stop => fault (.wrongType .null wanted) stop
  | .bool b stop => fault (.wrongType (.bool b) wanted) stop
  | .num n stop => fault (.wrongType (.num n) wanted) stop
  | .str s stop => fault (.wrongType (.str s) wanted) stop
  | .arr start _ => fault (.wrongType .sequence wanted) start
  | .obj start _ => fault (.wrongType .map wanted) start
  | .unusable f _ => f
  | .broken used _ => used

namespace Reader

def json : Reader Json := Tree.json

def string : Reader String
  | .str s _ => .ok s
  | t => .error (t.mismatch .string)

def bool : Reader Bool
  | .bool b _ => .ok b
  | t => .error (t.mismatch .boolean)

def u32 : Reader Nat
  | .num (.int n) stop =>
    if 0 ≤ n ∧ n < 0x100000000 then .ok n.toNat
    else .error (fault (.wrongValue (.num (.int n)) .u32) stop)
  | t => .error (t.mismatch .u32)

def optional (read : Reader α) : Reader (Option α)
  | .null _ => .ok none
  | t => (read t).map some

def items (read : Reader α) (index : Nat) : Items → Except Fault (List α)
  | .close _ => .ok []
  | .item _ value rest =>
    match read value with
    | .error f => .error (f.within (.item index))
    | .ok value => (items read (index + 1) rest).map (value :: ·)
  | .cut used _ _ => .error (used.within (.item index))

def list (read : Reader α) : Reader (List α)
  | .arr _ is => items read 0 is
  | t => .error (t.mismatch .sequence)

def params : Reader Params
  | .obj _ members => (members.json).map Dict.ofList
  | t => .error (t.mismatch .map)

end Reader

/-! ## Records -/

/-- A field of a record that is built up from a blank one. -/
structure Field (ρ : Type) where
  name : String
  put : Tree → ρ → Except Fault ρ
  /-- Whether an object without the field is refused. -/
  needed : Bool
  /-- Whether a list that ends before the field is refused. -/
  neededInList : Bool

namespace Field

def ofReader (name : String) (read : Reader α) (set : α → ρ → ρ) (needed neededInList : Bool) :
    Field ρ :=
  { name, needed, neededInList, put := fun t r => (read t).map fun a => set a r }

def required (name : String) (read : Reader α) (set : α → ρ → ρ) : Field ρ :=
  ofReader name read set true true

/-- A field that keeps its blank value where it is absent. -/
def defaulted (name : String) (read : Reader α) (set : α → ρ → ρ) : Field ρ :=
  ofReader name read set false false

end Field

structure Record (ρ : Type) where
  name : String
  blank : ρ
  fields : List (Field ρ)
  /-- Whether members that are no fields are refused. -/
  closed : Bool

namespace Record

variable {ρ : Type}

def find? (r : Record ρ) (key : String) : Option (Field ρ) :=
  r.fields.find? fun f => f.name = key

/-- Reads the members of an object into `built`, the fields of `seen` being in it. -/
def readMembers (r : Record ρ) (seen : List String) (built : ρ) : Members → Except Fault ρ
  | .close stop =>
    match r.fields.find? fun f => f.needed && f.name ∉ seen with
    | some f => .error (fault (.missing f.name) stop)
    | none => .ok built
  | .member key here value rest =>
    match r.find? key with
    | some f =>
      if key ∈ seen then .error (fault (.duplicate key) here)
      else
        match f.put value built with
        | .error fault => .error (fault.within (.member key))
        | .ok built => r.readMembers (key :: seen) built rest
    | none =>
      if r.closed then
        .error ((fault (.unknown key (r.fields.map (·.name))) here).within (.member key))
      else
        match value.passed? with
        | some fault => .error (fault.within (.member key))
        | none => r.readMembers seen built rest
  | .unusableKey f _ => .error (f.within .unread)
  | .cut used _ => .error (used.within .unread)

/-- Reads the items of a list as the fields from number `index` on. -/
def readItems (r : Record ρ) (index : Nat) (built : ρ) : List (Field ρ) → Items → Except Fault ρ
  | [], .close _ => .ok built
  | [], .item surplus _ _ => .error surplus
  | [], .cut _ _ surplus => .error surplus
  | f :: fields, .item _ value rest =>
    match f.put value built with
    | .error fault => .error (fault.within (.item index))
    | .ok built => r.readItems (index + 1) built fields rest
  | f :: fields, .close stop =>
    if f.neededInList then
      .error (fault (.wrongLength index (.fields r.name r.fields.length)) stop)
    else r.readItems (index + 1) built fields (.close stop)
  | _ :: _, .cut used _ _ => .error (used.within (.item index))

def reader (r : Record ρ) : Reader ρ
  | .obj _ members => r.readMembers [] r.blank members
  | .arr _ items => r.readItems 0 r.blank r.fields items
  | t => .error (t.mismatch (.record r.name))

end Record

/-! ## Texts and values -/

namespace Reader

/-- Reads a text that holds one value and nothing else. -/
def ofText (read : Reader α) (text : String) : Except Fault α :=
  let document := Document.ofText text
  match read document.tree, document.rest with
  | .ok _, some start => .error (fault .trailingCharacters (start + 1))
  | result, _ => result

/-- Reads a value at the beginning of a text, whatever follows it. -/
def ofTextStart (read : Reader α) (text : String) : Except Fault α :=
  read (Document.ofText text).tree

def ofJson (read : Reader α) (j : Json) : Except Fault α := read (Tree.ofJson j)

end Reader

def ofText (text : String) : Except Fault Json := Reader.json.ofText text

def ofText? (text : String) : Option Json := (ofText text).toOption

end Dashboard.Json
