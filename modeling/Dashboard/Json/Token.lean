import Dashboard.Json.Numeral

/-!
# Tokens of a JSON text

A text is cut into tokens, each with the bytes where it begins and ends. The
tokens stop at the first place that is no token. A reader that uses a value is
stricter than one that passes over it, so a token can be good for the one and
not for the other.
-/

namespace Dashboard.Json

inductive Lexeme where
  /-- One of `[ ] { } : ,`. -/
  | mark (c : Char)
  | null
  | bool (b : Bool)
  | num (n : Number)
  | str (s : String)
  /-- A number or a text that can only be passed over. -/
  | unusable (fault : Fault) (isText : Bool)
  /-- No token: the fault of a reader that uses the value and of one that passes over it. -/
  | broken (used passed : Fault) (isText : Bool)
  deriving Repr

structure Token where
  start : Nat
  lexeme : Lexeme
  stop : Nat
  deriving Repr

def fault (problem : Problem) (offset : Nat) : Fault := ⟨problem, offset, []⟩

/-! ## Strings -/

def hexDigit? (c : Char) : Option Nat :=
  if '0' ≤ c ∧ c ≤ '9' then some (c.toNat - '0'.toNat)
  else if 'a' ≤ c ∧ c ≤ 'f' then some (c.toNat - 'a'.toNat + 10)
  else if 'A' ≤ c ∧ c ≤ 'F' then some (c.toNat - 'A'.toNat + 10)
  else none

def hexUnit? (a b c d : Char) : Option Nat := do
  let a ← hexDigit? a
  let b ← hexDigit? b
  let c ← hexDigit? c
  let d ← hexDigit? d
  return ((a * 16 + b) * 16 + c) * 16 + d

def isLeading (unit : Nat) : Bool := 0xD800 ≤ unit && unit ≤ 0xDBFF

def isTrailing (unit : Nat) : Bool := 0xDC00 ≤ unit && unit ≤ 0xDFFF

def paired (leading trailing : Nat) : Char :=
  Char.ofNat ((leading - 0xD800) * 0x400 + (trailing - 0xDC00) + 0x10000)

def simpleEscape? : Char → Option Char
  | '"' => some '"'
  | '\\' => some '\\'
  | '/' => some '/'
  | 'b' => some '\x08'
  | 'f' => some '\x0c'
  | 'n' => some '\n'
  | 'r' => some '\r'
  | 't' => some '\t'
  | _ => none

def byteCount (text : List Char) : Nat := text.foldl (fun n c => n + c.utf8Size) 0

/-- What a text holds up to its closing quote. -/
structure TextScan where
  chars : List Char
  /-- The first place at which the text cannot be used. -/
  used : Option Fault
  /-- The place at which it cannot even be passed over. -/
  passed : Option Fault
  stop : Nat

namespace TextScan

def cons (c : Char) (s : TextScan) : TextScan := { s with chars := c :: s.chars }

def unusable (f : Fault) (s : TextScan) : TextScan := { s with used := some f }

def broken (used passed : Fault) : TextScan := ⟨[], some used, some passed, passed.offset⟩

end TextScan

private def cutOff (offset : Nat) : TextScan :=
  .broken (fault .endInString offset) (fault .endInString offset)

private def noEscape (offset : Nat) : TextScan :=
  .broken (fault .badEscape offset) (fault .badEscape offset)

/-- A leading surrogate that `lead` holds has to be followed by a trailing one. -/
def TextScan.after (lead : Option Nat) (offset : Nat) (s : TextScan) : TextScan :=
  match lead with
  | none => s
  | some _ => s.unusable (fault .endOfHexEscape offset)

/-- Scans from `pos`, just after the opening quote or, if `lead` holds a leading surrogate, just
after that. -/
def scanText (pos : Nat) (lead : Option Nat) : List Char → TextScan
  | [] => cutOff pos
  | '"' :: _ => TextScan.after lead (pos + 1) ⟨[], none, none, pos + 1⟩
  | ['\\'] => cutOff (pos + 1)
  | '\\' :: 'u' :: a :: b :: c :: d :: rest =>
    match hexUnit? a b c d, lead with
    | none, _ => noEscape (pos + 6)
    | some unit, some leading =>
      if isTrailing unit then (scanText (pos + 6) none rest).cons (paired leading unit)
      else (scanText (pos + 6) none rest).unusable (fault .loneSurrogate (pos + 6))
    | some unit, none =>
      if isTrailing unit then (scanText (pos + 6) none rest).unusable (fault .loneSurrogate (pos + 6))
      else if isLeading unit then scanText (pos + 6) (some unit) rest
      else (scanText (pos + 6) none rest).cons (Char.ofNat unit)
  | '\\' :: 'u' :: rest =>
    if byteCount rest < 4 then cutOff (pos + 2 + byteCount rest) else noEscape (pos + 6)
  | '\\' :: c :: rest =>
    TextScan.after lead (pos + 2) <|
      match simpleEscape? c with
      | some e => (scanText (pos + 2) none rest).cons e
      | none => noEscape (pos + 2)
  | c :: rest =>
    TextScan.after lead (pos + 1) <|
      if c.toNat < 32 then
        .broken (fault .controlCharacter (pos + 1)) (fault .controlCharacter pos)
      else (scanText (pos + c.utf8Size) none rest).cons c

/-! ## Tokens -/

def isBlank (c : Char) : Bool := c = ' ' || c = '\n' || c = '\t' || c = '\r'

def isMark (c : Char) : Bool :=
  c = '[' || c = ']' || c = '\x7b' || c = '\x7d' || c = ':' || c = ','

/-- The lexeme of a word that has begun, when the text goes on with `expected`. -/
def scanWord (lexeme : Lexeme) (start pos : Nat) : (expected text : List Char) → Token
  | [], _ => ⟨start, lexeme, pos⟩
  | _, [] => ⟨start, .broken (fault .endInValue pos) (fault .endInValue pos) false, pos⟩
  | e :: expected, c :: text =>
    if c = e then scanWord lexeme start (pos + 1) expected text
    else
      let f := fault .noIdentifier (pos + 1)
      ⟨start, .broken f f false, pos⟩

def numberToken (start : Nat) (text : List Char) : Token :=
  match scanNumeral text with
  | .broken used passed length =>
    ⟨start, .broken (fault used (start + length)) (fault passed (start + length)) false, start + length⟩
  | .numeral n length =>
    match n.value with
    | .ok value => ⟨start, .num value, start + length⟩
    | .error left =>
      ⟨start, .unusable (fault .numberOutOfRange (start + length - left)) false, start + length⟩

def textToken (start : Nat) (text : List Char) : Token :=
  let scan := scanText (start + 1) none text
  match scan.used, scan.passed with
  | none, none => ⟨start, .str (String.ofList scan.chars), scan.stop⟩
  | some used, none => ⟨start, .unusable used true, scan.stop⟩
  | used, some passed => ⟨start, .broken (used.getD passed) passed true, scan.stop⟩

/-- The token that begins with `c`, followed by `rest`. -/
def Token.read (start : Nat) (c : Char) (rest : List Char) : Token :=
  if isMark c then ⟨start, .mark c, start + 1⟩
  else if c = '"' then textToken start rest
  else if c = '-' ∨ (digit? c).isSome then numberToken start (c :: rest)
  else if c = 'n' then scanWord .null start (start + 1) ['u', 'l', 'l'] rest
  else if c = 't' then scanWord (.bool true) start (start + 1) ['r', 'u', 'e'] rest
  else if c = 'f' then scanWord (.bool false) start (start + 1) ['a', 'l', 's', 'e'] rest
  else
    let f := fault .noValue (start + 1)
    ⟨start, .broken f f false, start⟩

def Token.isBroken (t : Token) : Bool :=
  match t.lexeme with
  | .broken .. => true
  | _ => false

/-- The tokens of a text from `pos` on; those that begin before `free` belong to one already
read. -/
def tokens (pos free : Nat) : List Char → List Token
  | [] => []
  | c :: rest =>
    if pos < free ∨ isBlank c then tokens (pos + c.utf8Size) free rest
    else
      let token := Token.read pos c rest
      if token.isBroken then [token] else token :: tokens (pos + c.utf8Size) token.stop rest

end Dashboard.Json
