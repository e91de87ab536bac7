import Dashboard.Url.Basic

/-!
# Reading addresses

Reading is lenient, as in the address line of a browser: space around an
address and line ends inside it do not count, under the schemes of the web any
run of slashes of either kind leads to the host, and what may not stand in a
part is escaped.
-/

namespace Dashboard.Url

/-! ## Schemes -/

inductive SchemeKind where
  /-- A scheme of the web with the number of its usual service. -/
  | web (service : Nat)
  | file
  | other
  deriving DecidableEq, Repr

def SchemeKind.ofScheme : String → SchemeKind
  | "http" | "ws" => .web 80
  | "https" | "wss" => .web 443
  | "ftp" => .web 21
  | "file" => .file
  | _ => .other

def isSchemeChar (c : Char) : Bool := c.isAlphanum || c = '+' || c = '-' || c = '.'

def scheme? (text : List Char) : Option (String × List Char) :=
  match text, text.span isSchemeChar with
  | c :: _, (name, ':' :: rest) =>
    if c.isAlpha then some (String.ofList (name.map Char.toLower), rest) else none
  | _, _ => none

/-- A text up to a mark, and what follows the mark if it is there. -/
def cutAt (mark : Char) (text : List Char) : List Char × Option (List Char) :=
  match text.span (· ≠ mark) with
  | (before, _ :: after) => (before, some after)
  | (before, []) => (before, none)

/-! ## Escapes -/

def isGraphic (c : Char) : Bool := ' ' < c && c < '\x7f'

def inFragment (c : Char) : Bool := isGraphic c && !"\"<>\x60".contains c

def inPath (c : Char) : Bool := inFragment c && !"#?^\x7b\x7d".contains c

def inQuery (web : Bool) (c : Char) : Bool :=
  isGraphic c && !"\"#<>".contains c && !(web && c = '\'')

def inOpaquePath (c : Char) : Bool := c = ' ' || isGraphic c

def escaped (keep : Char → Bool) (text : List Char) : String :=
  String.ofList (Text.Percent.escapeUnless keep text)

/-! ## Paths -/

def isHere (segment : List Char) : Bool :=
  [".", "%2e"].contains (String.ofList (segment.map Char.toLower))

def isUp (segment : List Char) : Bool :=
  ["..", ".%2e", "%2e.", "%2e%2e"].contains (String.ofList (segment.map Char.toLower))

/-- Follows the steps that stay and the steps that lead up; `kept` are the segments so far, the
last one first. -/
def follow : (kept : List (List Char)) → List (List Char) → List (List Char)
  | kept, [] => kept.reverse
  | kept, segment :: rest =>
    if isUp segment then follow (if rest.isEmpty then [] :: kept.tail else kept.tail) rest
    else if isHere segment then follow (if rest.isEmpty then [] :: kept else kept) rest
    else follow (segment :: kept) rest

/-- The path of what follows the first slash. -/
def rooted (isSlash : Char → Bool) (text : List Char) : String :=
  "/" ++ "/".intercalate ((follow [] (Text.splitBy isSlash text)).map (escaped inPath))

/-! ## Hosts -/

def isSlash (c : Char) : Bool := c = '/' || c = '\\'

/-- What follows the last `@`, and whether there is one. -/
def afterUser (text : List Char) : List Char × Bool :=
  ((text.reverse.takeWhile (· ≠ '@')).reverse, text.contains '@')

/-- Cuts the number of the service off, at the first colon outside of brackets. -/
def cutService (inBrackets : Bool) : List Char → List Char × Option (List Char)
  | [] => ([], none)
  | c :: rest =>
    if c = ':' ∧ ¬inBrackets then ([], some rest)
    else
      let inBrackets := if c = '[' then true else if c = ']' then false else inBrackets
      let (host, service) := cutService inBrackets rest
      (c :: host, service)

/-- The number of a service, or nothing for none and for the usual one. -/
def service? (usual : Option Nat) : Option (List Char) → Option (Option Nat)
  | none | some [] => some none
  | some text =>
    if text.all Char.isDigit then
      (Host.digits? 10 text 0).bind fun n =>
        if 65535 < n then none else if some n = usual then some none else some (some n)
    else none

/-- The part of an address that names a host. A user is not kept. -/
def authority? (host? : List Char → Option Host) (usual : Option Nat) (text : List Char) :
    Option Authority := do
  let (text, hasUser) := afterUser text
  let (host, service) := cutService false text
  if host.isEmpty ∧ (hasUser ∨ service.isSome) then none
  else return ⟨← host? host, ← service? usual service⟩

/-- The host of a file, which is mostly this machine. -/
def fileHost? (text : List Char) : Option Host :=
  if text.isEmpty then some (.name "")
  else (Host.web? text).map fun host => if host = .name "localhost" then .name "" else host

/-! ## Addresses -/

/-- What stands between the scheme and the query. -/
def place? : SchemeKind → List Char → Option (Option Authority × String)
  | .web usual, text => do
    let (authority, path) := (text.dropWhile isSlash).span (!isSlash ·)
    return (some (← authority? Host.web? (some usual) authority), rooted isSlash path.tail)
  | .file, a :: b :: text =>
    if isSlash a && isSlash b then do
      let (host, path) := text.span (!isSlash ·)
      return (some ⟨← fileHost? host, none⟩, rooted isSlash path.tail)
    else
      some (some ⟨.name "", none⟩, rooted isSlash (if isSlash a then b :: text else a :: b :: text))
  | .file, text => some (some ⟨.name "", none⟩, rooted isSlash (text.dropWhile isSlash))
  | .other, '/' :: '/' :: text => do
    let (authority, path) := text.span (· ≠ '/')
    return (some (← authority? Host.other? none authority),
      if path.isEmpty then "" else rooted (· = '/') path.tail)
  | .other, '/' :: path => some (none, rooted (· = '/') path)
  | .other, path => some (none, escaped inOpaquePath path)

def ofString? (s : String) : Option Url := do
  let text := Text.dropEnd (· ≤ ' ') (s.toList.dropWhile (· ≤ ' '))
  let text := text.filter fun c => c ≠ '\t' && c ≠ '\n' && c ≠ '\r'
  let (scheme, text) ← scheme? text
  let kind := SchemeKind.ofScheme scheme
  let (text, fragment) := cutAt '#' text
  let (text, query) := cutAt '?' text
  let (authority, path) ← place? kind text
  return { scheme, authority, path
           query := query.map (escaped (inQuery (kind ≠ .other)))
           fragment := fragment.map (escaped inFragment) }

end Dashboard.Url
