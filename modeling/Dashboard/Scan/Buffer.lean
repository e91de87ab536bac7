/-!
# Keystrokes

A scanner types. Keys typed outside input fields collect in a buffer, and a
tab hands the buffer over as a barcode.
-/

namespace Dashboard

structure KeyStroke where
  key : Option String
  code : Nat
  inInput : Bool
  deriving DecidableEq, Repr, Inhabited

def tabKey : String := "Tab"

/-- The text of a character code; codes of no character give nothing. -/
def characterText (code : Nat) : String :=
  if code.isValidChar then String.singleton (Char.ofNat code) else ""

/-- The key of a stroke by its name or, where it has none, by its code. -/
def resolveKey (key : Option String) (code : Nat) : String :=
  match key with
  | some key => if key ≠ "Unidentified" then key else byCode
  | none => byCode
where
  byCode : String := if code = 9 then tabKey else characterText code

/-- Keys typed since the last barcode. -/
structure ScanBuffer where
  text : String
  deriving DecidableEq, Repr, Inhabited

namespace ScanBuffer

def empty : ScanBuffer := ⟨""⟩

def press (b : ScanBuffer) (key : String) (inInput : Bool) : ScanBuffer :=
  if inInput then b else ⟨b.text ++ key⟩

/-- The barcode that a key hands over, and the buffer after it. -/
def down (b : ScanBuffer) (key : String) : Option String × ScanBuffer :=
  if key = tabKey ∧ !b.text.isEmpty then (some b.text, empty) else (none, b)

def stroke (b : ScanBuffer) (k : KeyStroke) : Option String × ScanBuffer :=
  let key := resolveKey k.key k.code
  if key = tabKey then b.down key else (none, b.press key k.inInput)

/-- The barcodes of several strokes, in order, and the buffer after them. -/
def strokes : List KeyStroke → ScanBuffer → List String × ScanBuffer
  | [], b => ([], b)
  | k :: rest, b =>
    let (barcode, b) := b.stroke k
    let (barcodes, b) := strokes rest b
    (barcode.toList ++ barcodes, b)

end ScanBuffer

end Dashboard
