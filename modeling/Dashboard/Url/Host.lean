import Dashboard.Text.Percent
import Dashboard.Text.Search
import Dashboard.Url.Punycode

/-!
# Hosts

A host is a name, or the address of a machine in one of two forms. Under the
schemes of the web a name is read in lower case, and one that ends in a number
has to be an address.
-/

namespace Dashboard

inductive Host where
  | name (text : String)
  | v4 (address : Nat)
  /-- Eight groups of 16 bits. -/
  | v6 (groups : List Nat)
  deriving DecidableEq, Repr, Inhabited

namespace Host

/-! ## Numbers -/

def digits? (base : Nat) : List Char → Nat → Option Nat
  | [], n => some n
  | c :: rest, n =>
    match Text.Percent.hexValue? c with
    | some d => if d < base then digits? base rest (n * base + d) else none
    | none => none

/-- A number: hexadecimal after `0x`, octal after `0`, else decimal. -/
def number? : List Char → Option Nat
  | [] => none
  | '0' :: 'x' :: rest | '0' :: 'X' :: rest => digits? 16 rest 0
  | '0' :: c :: rest => digits? 8 (c :: rest) 0
  | text => digits? 10 text 0

/-- The parts of a name between its points; one point at the end is idle. -/
def parts (name : List Char) : List (List Char) :=
  let parts := Text.splitBy (· = '.') name
  if parts.getLast? = some [] then parts.dropLast else parts

def endsInNumber (name : List Char) : Bool :=
  match (parts name).getLast? with
  | some part => (!part.isEmpty && part.all Char.isDigit) || (number? part).isSome
  | none => false

/-- An address of up to four numbers, of which the last fills what the others leave. -/
def v4? (name : List Char) : Option Host := do
  let numbers ← (parts name).mapM number?
  let last ← numbers.getLast?
  let first := numbers.dropLast
  let left := Nat.pow 256 (4 - first.length)
  if first.length < 4 ∧ first.all (· < 256) ∧ last < left then
    some (.v4 (first.foldl (fun n part => n * 256 + part) 0 * left + last))
  else none

/-! ## Groups -/

def octet? (text : List Char) : Option Nat :=
  if text.isEmpty ∨ (text.head? = some '0' ∧ text.length ≠ 1) then none
  else (digits? 10 text 0).filter (· < 256)

def octets? (text : List Char) : Option (List Nat) := do
  match ← (Text.splitBy (· = '.') text).mapM octet? with
  | [a, b, c, d] => some [a * 256 + b, c * 256 + d]
  | _ => none

def group? (text : List Char) : Option (List Nat) :=
  if text.isEmpty ∨ 4 < text.length then none else (digits? 16 text 0).map ([·])

/-- Groups between colons; octets may stand only at the end of an address. -/
def groups? (atEnd : Bool) : List (List Char) → Option (List Nat)
  | [] => some []
  | [part] => if atEnd && part.contains '.' then octets? part else group? part
  | part :: rest => do return (← group? part) ++ (← groups? atEnd rest)

def side? (atEnd : Bool) (text : List Char) : Option (List Nat) :=
  if text.isEmpty then some [] else groups? atEnd (Text.splitBy (· = ':') text)

/-- Eight groups, or fewer around two colons that stand for zeros. -/
def v6? (text : List Char) : Option Host :=
  match Text.split? [':', ':'] text with
  | none => do
    let groups ← side? true text
    if groups.length = 8 then some (.v6 groups) else none
  | some (before, after) => do
    let before ← side? false before
    let after ← side? true after
    if before.length + after.length < 8 then
      some (.v6 (before ++ List.replicate (8 - before.length - after.length) 0 ++ after))
    else none

/-! ## Names -/

def isForbidden (c : Char) : Bool :=
  c = '\x00' || c = '\t' || c = '\n' || c = '\r' || c = ' ' || "#/:<>?@[\\]^|".contains c

def isForbiddenInName (c : Char) : Bool := isForbidden c || c < ' ' || c = '%' || c = '\x7f'

/-- The small letter of a letter, for the Latin, Greek and Cyrillic capitals. -/
def lower (c : Char) : Char :=
  let n := c.toNat
  if (0xC0 ≤ n ∧ n ≤ 0xDE ∧ n ≠ 0xD7) ∨ (0x391 ≤ n ∧ n ≤ 0x3AB) ∨ (0x410 ≤ n ∧ n ≤ 0x42F) then
    Char.ofNat (n + 32)
  else if 0x400 ≤ n ∧ n ≤ 0x40F then Char.ofNat (n + 80)
  else c.toLower

/-- A host under a scheme of the web. -/
def web? (text : List Char) : Option Host := do
  if text.head? = some '[' then
    if text.getLast? = some ']' then v6? text.tail.dropLast else none
  else
    let name ← Text.Percent.decode? (String.ofList text)
    let labels := (Text.splitBy (· = '.') (name.toList.map lower)).map Punycode.encode
    let name := List.intercalate ['.'] labels
    if name.isEmpty ∨ name.any isForbiddenInName then none
    else if endsInNumber name then v4? name
    else some (.name (String.ofList name))

/-- A host under any other scheme is kept as it is. -/
def other? (text : List Char) : Option Host :=
  if text.head? = some '[' then
    if text.getLast? = some ']' then v6? text.tail.dropLast else none
  else if text.any isForbidden then none
  else some (.name (String.ofList (Text.Percent.escapeUnless (fun c => ' ' ≤ c && c < '\x7f') text)))

/-! ## Texts -/

def octetsText (address : Nat) : String :=
  ".".intercalate ([16777216, 65536, 256, 1].map fun unit => toString (address / unit % 256))

def groupText (group : Nat) : String := String.ofList (Nat.toDigits 16 group)

def zerosAt (groups : List Nat) (i : Nat) : Nat := ((groups.drop i).takeWhile (· = 0)).length

/-- The first of the longest runs of zeros is left out, if it is longer than one group. -/
def groupsText (groups : List Nat) : String :=
  let start := (List.range groups.length).foldl
    (fun best i => if zerosAt groups best < zerosAt groups i then i else best) 0
  let count := zerosAt groups start
  let text := fun groups : List Nat => ":".intercalate (groups.map groupText)
  if count < 2 then text groups
  else text (groups.take start) ++ "::" ++ text (groups.drop (start + count))

def text : Host → String
  | .name text => text
  | .v4 address => octetsText address
  | .v6 groups => "[" ++ groupsText groups ++ "]"

end Host

end Dashboard
