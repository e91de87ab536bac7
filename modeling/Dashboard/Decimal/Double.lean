import Dashboard.Decimal.Layout

/-!
# Doubles

A double is kept by its 64 bits, so that equality of doubles is equality of
what they print: `0.0` and `-0.0` differ, and a NaN equals itself.
-/

namespace Dashboard

structure Double where
  bits : UInt64
  deriving DecidableEq, Repr, Inhabited

namespace Double

def ofFloat (x : Float) : Double := ⟨x.toBits⟩

def toFloat (x : Double) : Float := Float.ofBits x.bits

def ofInt (n : Int) : Double := ofFloat (Float.ofInt n)

def isNegative (x : Double) : Bool := x.bits >>> 63 == 1

def isFinite (x : Double) : Bool := (x.bits >>> 52) &&& 0x7FF != 0x7FF

def isNaN (x : Double) : Bool := !x.isFinite && x.bits &&& 0xFFFFFFFFFFFFF != 0

/-- The shortest decimal that reads back as the absolute value of a finite double. -/
def shortest (x : Double) : Decimal.Expansion := Decimal.shortest (Decimal.Binary.ofBits x.bits)

def text (layout : Decimal.Layout) (x : Double) : String :=
  String.ofList ((if x.isNegative then ['-'] else []) ++ layout.text x.shortest)

end Double

end Dashboard
