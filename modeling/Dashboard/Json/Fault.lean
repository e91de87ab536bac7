import Dashboard.Json.Printer
import Dashboard.Text.Quoted

/-!
# What is wrong with a JSON text

A text can fail to be JSON, and a JSON value can fail to be what its reader
needs. A `Fault` names the problem, the place in the text as a number of
bytes, and the way to the place through the value.
-/

namespace Dashboard.Json

/-- What a reader met where it needed something else. -/
inductive Found where
  | null
  | bool (b : Bool)
  | num (n : Number)
  | str (s : String)
  | sequence
  | map
  deriving DecidableEq, Repr

inductive Wanted where
  | string
  | boolean
  | map
  | sequence
  | u32
  | record (name : String)
  | fields (name : String) (count : Nat)
  | fewerItems
  deriving DecidableEq, Repr

inductive Problem where
  -- the text ends
  | endInValue
  | endInList
  | endInObject
  | endInString
  -- the text goes on in a way that JSON does not
  | noValue
  | noIdentifier
  | noColon
  | noListComma
  | noObjectComma
  | noKey
  | trailingComma
  | trailingCharacters
  | badNumber
  | numberOutOfRange
  | badEscape
  | endOfHexEscape
  | loneSurrogate
  | controlCharacter
  | tooDeep
  -- the value is not what the reader needs
  | wrongType (found : Found) (wanted : Wanted)
  | wrongValue (found : Found) (wanted : Wanted)
  | wrongLength (length : Nat) (wanted : Wanted)
  | missing (field : String)
  | duplicate (field : String)
  | unknown (field : String) (known : List String)
  deriving DecidableEq, Repr

/-- One step from a value into a part of it; `unread` where a key could not be read. -/
inductive Step where
  | item (index : Nat)
  | member (key : String)
  | unread
  deriving DecidableEq, Repr

structure Fault where
  problem : Problem
  offset : Nat
  path : List Step
  deriving DecidableEq, Repr

/-! ## Texts -/

def Found.text : Found → String
  | .null => "null"
  | .bool b => "boolean `" ++ (if b then "true" else "false") ++ "`"
  | .num (.int n) => "integer `" ++ toString n ++ "`"
  | .num (.real x) => "floating point `" ++ (Number.real x).text ++ "`"
  | .str s => "string " ++ Text.quoted s
  | .sequence => "sequence"
  | .map => "map"

def Wanted.text : Wanted → String
  | .string => "a string"
  | .boolean => "a boolean"
  | .map => "a map"
  | .sequence => "a sequence"
  | .u32 => "u32"
  | .record name => "struct " ++ name
  | .fields name count =>
    "struct " ++ name ++ " with " ++ toString count ++ (if count = 1 then " element" else " elements")
  | .fewerItems => "fewer elements in array"

def fieldNames (names : List String) : String :=
  String.intercalate ", " (names.map fun name => "`" ++ name ++ "`")

def Problem.text : Problem → String
  | .endInValue => "EOF while parsing a value"
  | .endInList => "EOF while parsing a list"
  | .endInObject => "EOF while parsing an object"
  | .endInString => "EOF while parsing a string"
  | .noValue => "expected value"
  | .noIdentifier => "expected ident"
  | .noColon => "expected `:`"
  | .noListComma => "expected `,` or `]`"
  | .noObjectComma => "expected `,` or `\x7d`"
  | .noKey => "key must be a string"
  | .trailingComma => "trailing comma"
  | .trailingCharacters => "trailing characters"
  | .badNumber => "invalid number"
  | .numberOutOfRange => "number out of range"
  | .badEscape => "invalid escape"
  | .endOfHexEscape => "unexpected end of hex escape"
  | .loneSurrogate => "lone leading surrogate in hex escape"
  | .controlCharacter => "control character (\\u0000-\\u001F) found while parsing a string"
  | .tooDeep => "recursion limit exceeded"
  | .wrongType found wanted => "invalid type: " ++ found.text ++ ", expected " ++ wanted.text
  | .wrongValue found wanted => "invalid value: " ++ found.text ++ ", expected " ++ wanted.text
  | .wrongLength n wanted => "invalid length " ++ toString n ++ ", expected " ++ wanted.text
  | .missing field => "missing field `" ++ field ++ "`"
  | .duplicate field => "duplicate field `" ++ field ++ "`"
  | .unknown field known =>
    "unknown field `" ++ field ++ "`, " ++
      match known with
      | [] => "there are no fields"
      | [one] => "expected `" ++ one ++ "`"
      | [one, other] => "expected `" ++ one ++ "` or `" ++ other ++ "`"
      | more => "expected one of " ++ fieldNames more

/-- Whether the text is JSON and only its value is not what the reader needs. -/
def Problem.inValue : Problem → Bool
  | .wrongType .. | .wrongValue .. | .wrongLength .. | .missing _ | .duplicate _ | .unknown .. => true
  | _ => false

/-! ## Places -/

/-- A line of a text, from 1, and the number of bytes before the place on that line. -/
structure Place where
  line : Nat
  column : Nat
  deriving DecidableEq, Repr

/-- The place `offset` bytes into the text; a newline ends its line. -/
def Place.ofOffset : (text : List Char) → (offset : Nat) → Place → Place
  | [], _, place => place
  | c :: rest, offset, place =>
    if offset = 0 then place
    else if offset < c.utf8Size then { place with column := place.column + offset }
    else ofOffset rest (offset - c.utf8Size)
      (if c = '\n' then ⟨place.line + 1, 0⟩ else { place with column := place.column + c.utf8Size })

def Step.text : Step → String
  | .item index => "[" ++ toString index ++ "]"
  | .member key => key
  | .unread => "?"

/-- The steps as written in front of a problem: keys after a point, positions in brackets. -/
def pathText : List Step → String
  | [] => ""
  | .item index :: rest => Step.text (.item index) ++ pathText.after rest
  | step :: rest => step.text ++ pathText.after rest
where
  after : List Step → String
    | [] => ""
    | .item index :: rest => Step.text (.item index) ++ after rest
    | step :: rest => "." ++ step.text ++ after rest

namespace Fault

def within (step : Step) (f : Fault) : Fault := { f with path := step :: f.path }

def messageIn (text : String) (f : Fault) : String :=
  let place := Place.ofOffset text.toList f.offset ⟨1, 0⟩
  f.problem.text ++ " at line " ++ toString place.line ++ " column " ++ toString place.column

def message (f : Fault) : String := f.problem.text

/-- The problem with its place, after the way to it where one is known. -/
def routedMessageIn (text : String) (f : Fault) : String :=
  if f.path.all (· = .unread) then f.messageIn text
  else pathText f.path ++ ": " ++ f.messageIn text

end Fault

end Dashboard.Json
