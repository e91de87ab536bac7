import Dashboard.Json.Basic

/-!
# The text of a JSON value

Compact, members in the order of the value. Quotes, backslashes and control
characters of strings are escaped and nothing else. A double is written with
the fewest digits that read back, positionally from `1e-5` up to `1e16`, and
always with a point or an exponent.
-/

namespace Dashboard

namespace Number

def layout : Decimal.Layout where
  positional e := -5 ≤ e && e < 16
  pointed := true

def text : Number → String
  | .int n => toString n
  | .real x => if x.isFinite then x.text layout else "null"

end Number

namespace Json

private def hexDigit (n : Nat) : Char := Nat.digitChar n

def escaped (c : Char) : List Char :=
  if c = '"' then ['\\', '"']
  else if c = '\\' then ['\\', '\\']
  else if c.toNat = 8 then ['\\', 'b']
  else if c.toNat = 12 then ['\\', 'f']
  else if c = '\n' then ['\\', 'n']
  else if c = '\r' then ['\\', 'r']
  else if c = '\t' then ['\\', 't']
  else if c.toNat < 32 then ['\\', 'u', '0', '0', hexDigit (c.toNat / 16), hexDigit (c.toNat % 16)]
  else [c]

def quoted (s : String) : String := String.ofList ('"' :: s.toList.flatMap escaped ++ ['"'])

mutual

def text : Json → String
  | .null => "null"
  | .bool b => if b then "true" else "false"
  | .num n => n.text
  | .str s => quoted s
  | .arr items => "[" ++ itemsText items ++ "]"
  | .obj members => "\x7b" ++ membersText members ++ "\x7d"

def itemsText : List Json → String
  | [] => ""
  | [item] => text item
  | item :: rest => text item ++ "," ++ itemsText rest

def membersText : List (String × Json) → String
  | [] => ""
  | [(key, value)] => quoted key ++ ":" ++ text value
  | (key, value) :: rest => quoted key ++ ":" ++ text value ++ "," ++ membersText rest

end

end Json

end Dashboard
