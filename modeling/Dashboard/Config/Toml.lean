import Dashboard.Decimal.Numeral
import Dashboard.Json.Basic

/-!
# TOML

A document is a list of headers and assignments. Each is read by itself; then
they are put into one table, where a name is given its value once.
-/

namespace Dashboard.Config.Toml

/-- Reads something at the head of a text and gives what follows it. -/
abbrev Scan (α : Type) := List Char → Option (α × List Char)

def isBlank (c : Char) : Bool := c = ' ' || c = '\t'

/-- Control characters may not stand in strings and comments, tabs excepted. -/
def isForbidden (c : Char) : Bool := (c.toNat < 32 && c ≠ '\t') || c.toNat = 127

def skipBlanks (text : List Char) : List Char := text.dropWhile isBlank

/-! ## Strings -/

def hexDigit? (c : Char) : Option Nat :=
  if '0' ≤ c ∧ c ≤ '9' then some (c.toNat - 48)
  else if 'a' ≤ c ∧ c ≤ 'f' then some (c.toNat - 87)
  else if 'A' ≤ c ∧ c ≤ 'F' then some (c.toNat - 55)
  else none

def codePoint? (digits : List Char) : Option Char := do
  let n ← digits.foldlM (fun n c => (hexDigit? c).map (n * 16 + ·)) 0
  if n.isValidChar then some (Char.ofNat n) else none

def simpleEscape? : Char → Option Char
  | 'b' => some '\x08'
  | 't' => some '\t'
  | 'n' => some '\n'
  | 'f' => some '\x0c'
  | 'r' => some '\r'
  | 'e' => some '\x1b'
  | '"' => some '"'
  | '\\' => some '\\'
  | _ => none

private def prepend (c : Option Char) (r : Option (List Char × List Char)) :
    Option (List Char × List Char) := do
  let c ← c
  let (cs, rest) ← r
  return (c :: cs, rest)

def basic : List Char → Option (List Char × List Char)
  | [] => none
  | '"' :: rest => some ([], rest)
  | '\\' :: 'x' :: a :: b :: rest => prepend (codePoint? [a, b]) (basic rest)
  | '\\' :: 'u' :: a :: b :: c :: d :: rest => prepend (codePoint? [a, b, c, d]) (basic rest)
  | '\\' :: 'U' :: a :: b :: c :: d :: e :: f :: g :: h :: rest =>
    prepend (codePoint? [a, b, c, d, e, f, g, h]) (basic rest)
  | '\\' :: c :: rest => prepend (simpleEscape? c) (basic rest)
  | c :: rest => prepend (if isForbidden c then none else some c) (basic rest)

/-- The rest of a string in apostrophes, which has no escapes. -/
def literal : List Char → Option (List Char × List Char)
  | [] => none
  | '\'' :: rest => some ([], rest)
  | c :: rest => prepend (if isForbidden c then none else some c) (literal rest)

inductive LineMode where
  | plain
  /-- After a backslash that ends a line, but for blanks. -/
  | lineEnd
  /-- After such a line, whose break and the blanks of the next lines are left out. -/
  | trimming
  deriving DecidableEq

/-- The rest of a string of several lines in quotes. Up to two quotes may stand before the closing
ones. -/
def basicLines : LineMode → List Char → Option (List Char × List Char)
  | _, [] => none
  | .lineEnd, '\n' :: rest => basicLines .trimming rest
  | .lineEnd, '\r' :: '\n' :: rest => basicLines .trimming rest
  | .lineEnd, c :: rest => if isBlank c then basicLines .lineEnd rest else none
  | _, '"' :: '"' :: '"' :: '"' :: '"' :: rest => some (['"', '"'], rest)
  | _, '"' :: '"' :: '"' :: '"' :: rest => some (['"'], rest)
  | _, '"' :: '"' :: '"' :: rest => some ([], rest)
  | _, '\\' :: 'x' :: a :: b :: rest => prepend (codePoint? [a, b]) (basicLines .plain rest)
  | _, '\\' :: 'u' :: a :: b :: c :: d :: rest =>
    prepend (codePoint? [a, b, c, d]) (basicLines .plain rest)
  | _, '\\' :: 'U' :: a :: b :: c :: d :: e :: f :: g :: h :: rest =>
    prepend (codePoint? [a, b, c, d, e, f, g, h]) (basicLines .plain rest)
  | _, '\\' :: '\n' :: rest => basicLines .trimming rest
  | _, '\\' :: '\r' :: '\n' :: rest => basicLines .trimming rest
  | _, '\\' :: c :: rest =>
    if isBlank c then basicLines .lineEnd rest
    else prepend (simpleEscape? c) (basicLines .plain rest)
  | mode, '\n' :: rest =>
    if mode = .trimming then basicLines .trimming rest
    else prepend (some '\n') (basicLines .plain rest)
  | mode, '\r' :: '\n' :: rest =>
    if mode = .trimming then basicLines .trimming rest
    else prepend (some '\n') (basicLines .plain rest)
  | mode, c :: rest =>
    if mode = .trimming && isBlank c then basicLines .trimming rest
    else prepend (if isForbidden c then none else some c) (basicLines .plain rest)

def literalLines : List Char → Option (List Char × List Char)
  | [] => none
  | '\'' :: '\'' :: '\'' :: '\'' :: '\'' :: rest => some (['\'', '\''], rest)
  | '\'' :: '\'' :: '\'' :: '\'' :: rest => some (['\''], rest)
  | '\'' :: '\'' :: '\'' :: rest => some ([], rest)
  | '\n' :: rest => prepend (some '\n') (literalLines rest)
  | '\r' :: '\n' :: rest => prepend (some '\n') (literalLines rest)
  | c :: rest => prepend (if isForbidden c then none else some c) (literalLines rest)

/-- A line break right after the opening quotes is left out. -/
def afterBreak : List Char → List Char
  | '\n' :: rest => rest
  | '\r' :: '\n' :: rest => rest
  | rest => rest

def string? : Scan String := fun text =>
  let scanned := match text with
    | '"' :: '"' :: '"' :: rest => basicLines .plain (afterBreak rest)
    | '\'' :: '\'' :: '\'' :: rest => literalLines (afterBreak rest)
    | '"' :: rest => basic rest
    | '\'' :: rest => literal rest
    | _ => none
  scanned.map fun (chars, rest) => (String.ofList chars, rest)

/-! ## Names -/

def isNameChar (c : Char) : Bool := c.isAlphanum || c = '_' || c = '-'

def name? : Scan String := fun text =>
  match text with
  | '"' :: rest => (basic rest).map fun (chars, rest) => (String.ofList chars, rest)
  | '\'' :: rest => (literal rest).map fun (chars, rest) => (String.ofList chars, rest)
  | _ =>
    let chars := text.takeWhile isNameChar
    if chars.isEmpty then none else some (String.ofList chars, text.drop chars.length)

def key? : (fuel : Nat) → Scan (List String)
  | 0, _ => none
  | fuel + 1, text => do
    let (name, rest) ← name? (skipBlanks text)
    match skipBlanks rest with
    | '.' :: rest =>
      let (names, rest) ← key? fuel rest
      return (name :: names, rest)
    | rest => return ([name], rest)

/-! ## Lines -/

def skipComment (text : List Char) : Option (List Char) :=
  match text with
  | '#' :: rest =>
    let comment := rest.takeWhile fun c => c ≠ '\n' && c ≠ '\r'
    if comment.any isForbidden then none else some (rest.drop comment.length)
  | _ => some text

def skipBreak? : List Char → Option (List Char)
  | '\n' :: rest => some rest
  | '\r' :: '\n' :: rest => some rest
  | _ => none

/-- Blanks and a comment up to the next line or the end of the text. -/
def endLine? (text : List Char) : Option (List Char) := do
  let rest ← skipComment (skipBlanks text)
  if rest.isEmpty then return [] else skipBreak? rest

def skipSpace : (fuel : Nat) → List Char → Option (List Char)
  | 0, _ => none
  | fuel + 1, text => do
    let rest ← skipComment (skipBlanks text)
    match skipBreak? rest with
    | some rest => skipSpace fuel rest
    | none => return rest

/-! ## Numbers -/

/-- Digits with single underscores between them, without these. -/
def plainDigits? (isDigit : Char → Bool) : List Char → Option (List Char)
  | [] => none
  | [c] => if isDigit c then some [c] else none
  | c :: '_' :: rest => if isDigit c then (plainDigits? isDigit rest).map (c :: ·) else none
  | c :: rest => if isDigit c then (plainDigits? isDigit rest).map (c :: ·) else none

def integer? (negative : Bool) (n : Nat) : Option Json :=
  let i : Int := if negative then -(n : Int) else n
  if -0x8000000000000000 ≤ i ∧ i < 0x8000000000000000 then some (.int i) else none

private def radix? (base : Nat) (digits : List Char) : Option Json := do
  let digits ← plainDigits? (fun c => (hexDigit? c).any (· < base)) digits
  integer? false (digits.foldl (fun n c => n * base + (hexDigit? c).getD 0) 0)

private def decimalDigits? (digits : List Char) : Option (List Char) := plainDigits? Char.isDigit digits

private def noLeadingZero (digits : List Char) : Bool :=
  match digits with
  | '0' :: _ :: _ => false
  | _ => true

private def isExponentMark (c : Char) : Bool := c = 'e' || c = 'E'

def decimal? (negative : Bool) (text : List Char) : Option Json := do
  let mantissa := text.takeWhile fun c => !isExponentMark c
  let whole := mantissa.takeWhile (· ≠ '.')
  let digits ← decimalDigits? whole
  if !noLeadingZero digits then failure
  if whole.length = text.length then integer? negative (Decimal.value digits)
  else
    let fraction ← match mantissa.drop whole.length with
      | [] => some []
      | _ :: fraction => decimalDigits? fraction
    let exponent ← match text.drop mantissa.length with
      | [] => some 0
      | _ :: '-' :: rest => (decimalDigits? rest).map fun ds => -(Decimal.value ds : Int)
      | _ :: '+' :: rest => (decimalDigits? rest).map fun ds => (Decimal.value ds : Int)
      | _ :: rest => (decimalDigits? rest).map fun ds => (Decimal.value ds : Int)
    return .real (Decimal.nearest negative (Decimal.value (digits ++ fraction))
      (exponent - fraction.length))

private def signedNumber? (negative : Bool) (text : List Char) : Option Json :=
  match text with
  | ['i', 'n', 'f'] => some (.real (.ofFloat (if negative then -(1 / 0) else 1 / 0)))
  | ['n', 'a', 'n'] => some (.real (.ofFloat (0 / 0)))
  | _ => decimal? negative text

def word? (word : List Char) : Option Json :=
  match word with
  | ['t', 'r', 'u', 'e'] => some (.bool true)
  | ['f', 'a', 'l', 's', 'e'] => some (.bool false)
  | '0' :: 'x' :: digits => radix? 16 digits
  | '0' :: 'o' :: digits => radix? 8 digits
  | '0' :: 'b' :: digits => radix? 2 digits
  | '-' :: rest => signedNumber? true rest
  | '+' :: rest => signedNumber? false rest
  | _ => signedNumber? false word

def isWordChar (c : Char) : Bool := c.isAlphanum || c ∈ ['+', '-', '.', '_']

/-! ## Tables under construction -/

/-- How a table came to be, which decides what may still be added to it. -/
inductive Origin where
  /-- On the way of a header to a deeper table. -/
  | passed
  | opened
  | dotted
  deriving DecidableEq

inductive Node where
  | value (v : Json)
  | table (origin : Origin) (members : List (String × Node))
  /-- Tables under one repeated header, the last one first. -/
  | tables (newest : List (List (String × Node)))
  deriving Inhabited

abbrev Members := List (String × Node)

mutual

def Node.json : Node → Json
  | .value v => v
  | .table _ members => .ofMembers (membersJson members)
  | .tables newest => .arr (tablesJson newest).reverse

def membersJson : List (String × Node) → List (String × Json)
  | [] => []
  | (name, node) :: rest => (name, Node.json node) :: membersJson rest

def tablesJson : List (List (String × Node)) → List Json
  | [] => []
  | members :: rest => .ofMembers (membersJson members) :: tablesJson rest

end

def assign (value : Json) : List String → Members → Option Members
  | [], _ => none
  | [name], members =>
    match Entries.get? name members with
    | none => some (Entries.insert name (.value value) members)
    | some _ => none
  | name :: path, members => do
    let (origin, inner) ← match Entries.get? name members with
      | none => some (.dotted, [])
      | some (.table .opened _) => none
      | some (.table origin inner) => some (origin, inner)
      | some _ => none
    let inner ← assign value path inner
    return Entries.insert name (.table origin inner) members

def descend (f : Members → Option Members) : List String → Members → Option Members
  | [], members => f members
  | name :: path, members => do
    match Entries.get? name members with
    | none =>
      let inner ← descend f path []
      return Entries.insert name (.table .passed inner) members
    | some (.table origin inner) =>
      let inner ← descend f path inner
      return Entries.insert name (.table origin inner) members
    | some (.tables (last :: earlier)) =>
      let last ← descend f path last
      return Entries.insert name (.tables (last :: earlier)) members
    | some _ => none

def openTable (name : String) (members : Members) : Option Members :=
  match Entries.get? name members with
  | none => some (Entries.insert name (.table .opened []) members)
  | some (.table .passed inner) => some (Entries.insert name (.table .opened inner) members)
  | some _ => none

def addTable (name : String) (members : Members) : Option Members :=
  match Entries.get? name members with
  | none => some (Entries.insert name (.tables [[]]) members)
  | some (.tables newest) => some (Entries.insert name (.tables ([] :: newest)) members)
  | some _ => none

/-! ## Values -/

mutual

def value? : (fuel : Nat) → Scan Json
  | 0, _ => none
  | fuel + 1, text =>
    match text with
    | [] => none
    | '"' :: _ => (string? text).map fun (s, rest) => (.str s, rest)
    | '\'' :: _ => (string? text).map fun (s, rest) => (.str s, rest)
    | '[' :: rest => (items? fuel rest).map fun (items, rest) => (.arr items, rest)
    | '\x7b' :: rest =>
      (inline? fuel [] rest).map fun (members, rest) => (.ofMembers (membersJson members), rest)
    | _ =>
      let word := text.takeWhile isWordChar
      (word? word).map fun v => (v, text.drop word.length)

/-- The rest of a list; a comma may stand after its last item. -/
def items? : (fuel : Nat) → Scan (List Json)
  | 0, _ => none
  | fuel + 1, text => do
    match ← skipSpace text.length.succ text with
    | ']' :: rest => return ([], rest)
    | rest =>
      let (item, rest) ← value? fuel rest
      match ← skipSpace rest.length.succ rest with
      | ',' :: rest =>
        let (items, rest) ← items? fuel rest
        return (item :: items, rest)
      | ']' :: rest => return ([item], rest)
      | _ => none

/-- The rest of a table between braces, which has the members read before. -/
def inline? : (fuel : Nat) → Members → Scan Members
  | 0, _, _ => none
  | fuel + 1, members, text => do
    match ← skipSpace text.length.succ text with
    | '\x7d' :: rest => return (members, rest)
    | rest =>
      let (names, rest) ← key? rest.length.succ rest
      match rest with
      | '=' :: rest =>
        let (value, rest) ← value? fuel (skipBlanks rest)
        let members ← assign value names members
        match ← skipSpace rest.length.succ rest with
        | ',' :: rest => inline? fuel members rest
        | '\x7d' :: rest => return (members, rest)
        | _ => none
      | _ => none

end

/-! ## Documents -/

/-- Reads lines into `root`; assignments go into the table that `header` leads to. -/
def lines? : (fuel : Nat) → (header : List String) → Members → List Char → Option Members
  | 0, _, _, _ => none
  | fuel + 1, header, root, text => do
    match ← skipSpace text.length.succ text with
    | [] => return root
    | '[' :: '[' :: rest =>
      let (names, rest) ← key? rest.length.succ rest
      match rest with
      | ']' :: ']' :: rest =>
        let root ← descend (addTable (names.getLastD "")) names.dropLast root
        lines? fuel names root (← endLine? rest)
      | _ => none
    | '[' :: rest =>
      let (names, rest) ← key? rest.length.succ rest
      match rest with
      | ']' :: rest =>
        let root ← descend (openTable (names.getLastD "")) names.dropLast root
        lines? fuel names root (← endLine? rest)
      | _ => none
    | rest =>
      let (names, rest) ← key? rest.length.succ rest
      match rest with
      | '=' :: rest =>
        let (value, rest) ← value? rest.length.succ (skipBlanks rest)
        let root ← descend (assign value names) header root
        lines? fuel header root (← endLine? rest)
      | _ => none

/-- The table of a document, as a JSON object. -/
def ofText? (text : String) : Option Json :=
  let text := match text.toList with
    | '\ufeff' :: rest => rest
    | all => all
  (lines? text.length.succ [] [] text).map fun root => .ofMembers (membersJson root)

end Dashboard.Config.Toml
