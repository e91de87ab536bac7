/-!
# Media types

A request body counts as JSON when its media type says so. Parameters after
the type are allowed, but they have to be well-formed.
-/

namespace Dashboard.Api.MediaType

def isTokenChar (c : Char) : Bool :=
  c.isAlphanum || c ∈ ['!', '#', '$', '%', '&', '\'', '*', '+', '-', '.', '^', '_', '\x60', '|', '~']

/-- What may stand between quotes. -/
def isQuotable (c : Char) : Bool := 32 ≤ c.toNat && c.toNat ≤ 126

/-- Where a reader of parameters is. -/
inductive Position where
  | start
  | name
  | valueStart
  | value
  | quoteStart
  | quoted
  | afterQuote

/-- Whether the text after a semicolon is a list of parameters. Every parameter has a name; only
the last may lack a value, and a quoted value is not empty. -/
def parametersFrom : Position → List Char → Bool
  | .start, [] => true
  | .start, c :: rest =>
    if c = ' ' then parametersFrom .start rest else isTokenChar c && parametersFrom .name rest
  | .name, [] => false
  | .name, c :: rest =>
    if c = '=' then parametersFrom .valueStart rest else isTokenChar c && parametersFrom .name rest
  | .valueStart, [] => true
  | .valueStart, c :: rest =>
    if c = '"' then parametersFrom .quoteStart rest
    else isTokenChar c && parametersFrom .value rest
  | .value, [] => true
  | .value, c :: rest =>
    if c = ';' then parametersFrom .start rest else isTokenChar c && parametersFrom .value rest
  | .quoteStart, [] => false
  | .quoteStart, c :: rest => isQuotable c && parametersFrom .quoted rest
  | .quoted, [] => false
  | .quoted, c :: rest =>
    if c = '"' then parametersFrom .afterQuote rest else isQuotable c && parametersFrom .quoted rest
  | .afterQuote, [] => true
  | .afterQuote, c :: rest =>
    if c = ';' then parametersFrom .start rest else c = ' ' && parametersFrom .afterQuote rest

/-- A subtype before and after its last plus sign; a plus sign in front of everything is part of
the name. -/
def splitSuffix (subtype : List Char) : List Char × Option (List Char) :=
  let suffix := (subtype.reverse.takeWhile (· ≠ '+')).reverse
  let name := subtype.take (subtype.length - suffix.length - 1)
  if suffix.length < subtype.length && !name.isEmpty then (name, some suffix) else (subtype, none)

/-- Whether a media type is `application/json` or `application/…+json`. -/
def isJson (text : String) : Bool :=
  let chars := text.toList
  let kind := chars.takeWhile (· ≠ '/')
  let rest := chars.drop (kind.length + 1)
  let subtype := rest.takeWhile (· ≠ ';')
  let (name, suffix) := splitSuffix (subtype.map Char.toLower)
  kind.map Char.toLower = "application".toList
    && subtype.all isTokenChar
    && (name = "json".toList || suffix = some "json".toList)
    && parametersFrom .start (rest.drop (subtype.length + 1))

end Dashboard.Api.MediaType
