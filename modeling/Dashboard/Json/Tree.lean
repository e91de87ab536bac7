import Dashboard.Json.Token

/-!
# JSON texts as trees

Every text is a tree: a place where it stops being JSON is a leaf that holds
the fault. What a fault is called depends on the reader that meets it, so a
leaf holds one for a reader that uses the value, one for a reader that passes
over it and, inside a list, one for a reader that needs the list to end there.
-/

namespace Dashboard.Json

mutual

inductive Tree where
  | null (stop : Nat)
  | bool (b : Bool) (stop : Nat)
  | num (n : Number) (stop : Nat)
  | str (s : String) (stop : Nat)
  | arr (start : Nat) (items : Items)
  | obj (start : Nat) (members : Members)
  /-- A value that can only be passed over. -/
  | unusable (fault : Fault) (inner : Tree)
  | broken (used passed : Fault)

/-- What follows the opening bracket of a list or one of its items. -/
inductive Items where
  | close (stop : Nat)
  | item (surplus : Fault) (value : Tree) (rest : Items)
  | cut (used passed surplus : Fault)

/-- What follows the opening brace of an object or one of its members. -/
inductive Members where
  | close (stop : Nat)
  /-- A member; `here` is where the text goes on after the key, or ends with the key's object. -/
  | member (key : String) (here : Nat) (value : Tree) (rest : Members)
  | unusableKey (fault : Fault) (inner : Members)
  | cut (used passed : Fault)

end

/-! ## From tokens -/

/-- Lists and objects inside 127 others are too deep to be used. -/
def depthLimit : Nat := 128

def Tree.atDepth (depth start : Nat) (t : Tree) : Tree :=
  if depth < depthLimit then t else .unusable (fault .tooDeep (start + 1)) t

/-- Where a text goes on before these tokens, the closing brace of an object taken with it. -/
def whereNext (stop : Nat) : List Token → Nat
  | [] => stop
  | t :: _ =>
    match t.lexeme with
    | .mark '\x7d' => t.stop
    | _ => t.start

section
variable (stop : Nat)

def colon : List Token → Except Tree (List Token)
  | [] => .error (.broken (fault .endInObject stop) (fault .endInObject stop))
  | t :: rest =>
    match t.lexeme with
    | .mark ':' => .ok rest
    | _ => .error (.broken (fault .noColon (t.start + 1)) (fault .noColon (t.start + 1)))

def afterListComma : List Token → Option Items
  | [] => some (.cut (fault .endInValue stop) (fault .endInValue stop) (fault .trailingCharacters stop))
  | t :: _ =>
    match t.lexeme with
    | .mark ']' =>
      let here := t.start + 1
      some (.cut (fault .trailingComma here) (fault .noValue here) (fault .trailingComma here))
    | _ => none

def afterObjectComma : List Token → Option Members
  | [] => some (.cut (fault .endInValue stop) (fault .endInObject stop))
  | t :: _ =>
    match t.lexeme with
    | .mark '\x7d' => some (.cut (fault .trailingComma (t.start + 1)) (fault .noKey (t.start + 1)))
    | _ => none

/-- A member whose key is the first of these tokens, made of the value and members after it. -/
def withKey (make : List Token → Tree × Members × List Token) : List Token → Members × List Token
  | [] => (.cut (fault .endInObject stop) (fault .endInObject stop), [])
  | t :: rest =>
    match t.lexeme with
    | .str key =>
      let (value, members, rest') := make rest
      (.member key (whereNext stop rest) value members, rest')
    | .unusable f true =>
      let (value, members, rest') := make rest
      (.unusableKey f (.member "" (whereNext stop rest) value members), rest')
    | .broken used passed true => (.cut used passed, [])
    | _ => (.cut (fault .noKey (t.start + 1)) (fault .noKey (t.start + 1)), [])

mutual

/-- The value that begins with the first token, and the tokens after it. -/
def Tree.build (depth : Nat) : (fuel : Nat) → List Token → Tree × List Token
  | 0, _ => (.broken (fault .tooDeep stop) (fault .tooDeep stop), [])
  | _ + 1, [] => (.broken (fault .endInValue stop) (fault .endInValue stop), [])
  | fuel + 1, t :: rest =>
    match t.lexeme with
    | .null => (.null t.stop, rest)
    | .bool b => (.bool b t.stop, rest)
    | .num n => (.num n t.stop, rest)
    | .str s => (.str s t.stop, rest)
    | .mark '[' =>
      let (items, rest) := Items.build (depth + 1) true fuel rest
      (Tree.atDepth (depth + 1) t.start (.arr t.start items), rest)
    | .mark '\x7b' =>
      let (members, rest) := Members.build (depth + 1) true fuel rest
      (Tree.atDepth (depth + 1) t.start (.obj t.start members), rest)
    | .mark _ => (.broken (fault .noValue (t.start + 1)) (fault .noValue (t.start + 1)), [])
    | .unusable f _ => (.unusable f (.null t.stop), rest)
    | .broken used passed _ => (.broken used passed, [])

def Items.build (depth : Nat) (first : Bool) : (fuel : Nat) → List Token → Items × List Token
  | 0, _ => (.cut (fault .tooDeep stop) (fault .tooDeep stop) (fault .tooDeep stop), [])
  | _ + 1, [] => (.cut (fault .endInList stop) (fault .endInList stop) (fault .endInList stop), [])
  | fuel + 1, t :: rest =>
    match t.lexeme, first with
    | .mark ']', _ => (.close t.stop, rest)
    | _, true =>
      let (value, rest) := Tree.build depth fuel (t :: rest)
      let (items, rest) := Items.build depth false fuel rest
      (.item (fault .trailingCharacters (t.start + 1)) value items, rest)
    | .mark ',', false =>
      match afterListComma stop rest with
      | some items => (items, [])
      | none =>
        let next := match rest with
          | [] => stop
          | t :: _ => t.start
        let (value, rest) := Tree.build depth fuel rest
        let (items, rest) := Items.build depth false fuel rest
        (.item (fault .trailingCharacters (next + 1)) value items, rest)
    | _, false =>
      let here := t.start + 1
      (.cut (fault .noListComma here) (fault .noListComma here) (fault .trailingCharacters here), [])

def Members.build (depth : Nat) (first : Bool) : (fuel : Nat) → List Token → Members × List Token
  | 0, _ => (.cut (fault .tooDeep stop) (fault .tooDeep stop), [])
  | _ + 1, [] => (.cut (fault .endInObject stop) (fault .endInObject stop), [])
  | fuel + 1, t :: rest =>
    let make := fun rest => match colon stop rest with
      | .error value => (value, .cut (fault .noColon stop) (fault .noColon stop), [])
      | .ok rest =>
        let (value, rest) := Tree.build depth fuel rest
        let (members, rest) := Members.build depth false fuel rest
        (value, members, rest)
    match t.lexeme, first with
    | .mark '\x7d', _ => (.close t.stop, rest)
    | _, true => withKey stop make (t :: rest)
    | .mark ',', false =>
      match afterObjectComma stop rest with
      | some members => (members, [])
      | none => withKey stop make rest
    | _, false =>
      (.cut (fault .noObjectComma (t.start + 1)) (fault .noObjectComma (t.start + 1)), [])

end

end

/-- A text as a tree, and the place of the first character after the value, if there is one. -/
structure Document where
  tree : Tree
  rest : Option Nat

def Document.ofText (text : String) : Document :=
  let chars := text.toList
  let stop := byteCount chars
  let tokens := tokens 0 0 chars
  let (tree, rest) := Tree.build stop 0 (2 * tokens.length + 2) tokens
  ⟨tree, rest.head?.map Token.start⟩

/-! ## From values -/

mutual

def Tree.ofJson : Json → Tree
  | .null => .null 0
  | .bool b => .bool b 0
  | .num n => .num n 0
  | .str s => .str s 0
  | .arr items => .arr 0 (Items.ofJson items.length items)
  | .obj members => .obj 0 (Members.ofJson members)

/-- The items of a list of `length` items from one of them on. -/
def Items.ofJson (length : Nat) : List Json → Items
  | [] => .close 0
  | value :: rest =>
    .item (fault (.wrongLength length .fewerItems) 0) (Tree.ofJson value) (Items.ofJson length rest)

def Members.ofJson : List (String × Json) → Members
  | [] => .close 0
  | (key, value) :: rest => .member key 0 (Tree.ofJson value) (Members.ofJson rest)

end

/-! ## To values -/

mutual

/-- The value of a tree, or the first fault on the way through it. -/
def Tree.json : Tree → Except Fault Json
  | .null _ => .ok .null
  | .bool b _ => .ok (.bool b)
  | .num n _ => .ok (.num n)
  | .str s _ => .ok (.str s)
  | .arr _ items => (Items.json 0 items).map .arr
  | .obj _ members => (Members.json members).map Json.ofMembers
  | .unusable f _ => .error f
  | .broken used _ => .error used

def Items.json (index : Nat) : Items → Except Fault (List Json)
  | .close _ => .ok []
  | .item _ value rest =>
    match Tree.json value with
    | .error f => .error (f.within (.item index))
    | .ok value => (Items.json (index + 1) rest).map (value :: ·)
  | .cut used _ _ => .error (used.within (.item index))

def Members.json : Members → Except Fault (List (String × Json))
  | .close _ => .ok []
  | .member key _ value rest =>
    match Tree.json value with
    | .error f => .error (f.within (.member key))
    | .ok value => (Members.json rest).map ((key, value) :: ·)
  | .unusableKey f _ => .error (f.within .unread)
  | .cut used _ => .error (used.within .unread)

end

mutual

/-- The fault that a reader meets who passes over a value. -/
def Tree.passed? : Tree → Option Fault
  | .arr _ items => Items.passed? items
  | .obj _ members => Members.passed? members
  | .unusable _ inner => Tree.passed? inner
  | .broken _ passed => some passed
  | _ => none

def Items.passed? : Items → Option Fault
  | .close _ => none
  | .item _ value rest => (Tree.passed? value).or (Items.passed? rest)
  | .cut _ passed _ => some passed

def Members.passed? : Members → Option Fault
  | .close _ => none
  | .member _ _ value rest => (Tree.passed? value).or (Members.passed? rest)
  | .unusableKey _ inner => Members.passed? inner
  | .cut _ passed => some passed

end

end Dashboard.Json
