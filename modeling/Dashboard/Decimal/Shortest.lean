/-!
# Shortest decimals of binary floating-point numbers

A double stands for `m * 2 ^ q`, and every real number closer to it than to
its neighbours reads back as it. `shortest` finds the decimal with the fewest
digits in that interval, and of those the one nearest to the number; of two
equally near it takes the one whose last digit is even.
-/

namespace Dashboard.Decimal

/-- The number `digits * 10 ^ exponent`. -/
structure Expansion where
  digits : Nat
  exponent : Int
  deriving DecidableEq, Repr, Inhabited

/-- The same number without zeros at the end of its digits, at most `fuel` of them taken off. -/
def Expansion.stripped (d : Expansion) : Nat → Expansion
  | 0 => d
  | fuel + 1 =>
    if d.digits % 10 = 0 then stripped ⟨d.digits / 10, d.exponent + 1⟩ fuel else d

/-- A positive finite double: the number `m * 2 ^ q`, and whether it is the smallest of its
binade, where the neighbour below is only half as far away as the one above. -/
structure Binary where
  m : Nat
  q : Int
  lowest : Bool
  deriving DecidableEq, Repr, Inhabited

/-- Reads the exponent and fraction fields of a double, the sign left out. -/
def Binary.ofBits (bits : UInt64) : Binary :=
  let fraction := (bits &&& 0xFFFFFFFFFFFFF).toNat
  let exponent := ((bits >>> 52) &&& 0x7FF).toNat
  if exponent = 0 then ⟨fraction, -1074, false⟩
  else ⟨fraction + 0x10000000000000, (exponent : Int) - 1075, fraction == 0 && exponent != 1⟩

/-- The number and the ends of its interval over one common denominator. -/
structure Scaled where
  value : Nat
  low : Nat
  high : Nat
  denominator : Nat
  closed : Bool

def Binary.scaled (b : Binary) : Scaled :=
  let up := Nat.pow 2 b.q.toNat
  let down := Nat.pow 2 (-b.q).toNat
  { value := 4 * b.m * up
    low := (4 * b.m - (if b.lowest then 1 else 2)) * up
    high := (4 * b.m + 2) * up
    denominator := 4 * down
    closed := b.m % 2 == 0 }

/-- Whether `digits` steps of size `num / den` lie in the interval. -/
def Scaled.holds (s : Scaled) (digits num den : Nat) : Bool :=
  let x := digits * num * s.denominator
  if s.closed then s.low * den ≤ x && x ≤ s.high * den
  else s.low * den < x && x < s.high * den

/-- The decimal of the grid `10 ^ exponent` that lies in the interval and is nearest to the
number, when there is one. -/
def Scaled.onGrid (s : Scaled) (exponent : Int) : Option Expansion :=
  let num := Nat.pow 10 exponent.toNat
  let den := Nat.pow 10 (-exponent).toNat
  let below := s.value * den / (num * s.denominator)
  let above := below + 1
  -- twice the distance from the grid point below, in units of half a step
  let past := 2 * (s.value * den - below * num * s.denominator)
  let step := num * s.denominator
  let nearer := if past < step then below else if step < past then above
    else if below % 2 = 0 then below else above
  let farther := if nearer = below then above else below
  if s.holds nearer num den then some ⟨nearer, exponent⟩
  else if s.holds farther num den then some ⟨farther, exponent⟩
  else none

/-- The exponent `e` with `10 ^ (e - 1) ≤ value < 10 ^ e`, found upwards from `e`. -/
def Scaled.magnitude (s : Scaled) : Nat → Int → Int
  | 0, e => e
  | fuel + 1, e =>
    if s.value * Nat.pow 10 (-e).toNat < Nat.pow 10 e.toNat * s.denominator then e
    else s.magnitude fuel (e + 1)

/-- Tries one digit, then two, up to `fuel` more than `digits`. -/
def Scaled.fewest (s : Scaled) (magnitude : Int) : Nat → Nat → Option Expansion
  | 0, _ => none
  | fuel + 1, digits =>
    match s.onGrid (magnitude - digits) with
    | some d => some d
    | none => s.fewest magnitude fuel (digits + 1)

/-- A lower bound of the decimal magnitude: `2 ^ k` has more than `3 * k / 10` digits. -/
def Binary.magnitudeBound (b : Binary) : Int :=
  (b.q + Nat.log2 b.m) * 30103 / 100000 - 1

def shortest (b : Binary) : Expansion :=
  if b.m = 0 then ⟨0, 0⟩
  else
    let s := b.scaled
    ((s.fewest (s.magnitude 6 b.magnitudeBound) 17 1).getD ⟨0, 0⟩).stripped 17

end Dashboard.Decimal
