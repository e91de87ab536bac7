import Dashboard.Decimal.Double

/-!
# Numerals with a point or an exponent

Reading such a numeral gives the double nearest to it.
-/

namespace Dashboard.Decimal

/-- The double nearest to `digits * 10 ^ exponent`. Exponents beyond all doubles are cut, which
keeps the powers of ten small. -/
def nearest (negative : Bool) (digits : Nat) (exponent : Int) : Double :=
  let size := exponent + (Nat.toDigits 10 digits).length
  let x : Float :=
    if digits = 0 ∨ size < -400 then 0
    else if 400 < size then 1 / 0
    else Float.ofScientific digits (exponent < 0) exponent.natAbs
  .ofFloat (if negative then -x else x)

def value (digits : List Char) : Nat := digits.foldl (fun n c => n * 10 + (c.toNat - 48)) 0

/-- An exponent at the end of a numeral; none at all is zero. -/
def exponent? : List Char → Option Int
  | [] => some 0
  | e :: rest =>
    let (negative, digits) := match rest with
      | '-' :: rest => (true, rest)
      | '+' :: rest => (false, rest)
      | rest => (false, rest)
    if (e = 'e' ∨ e = 'E') ∧ !digits.isEmpty ∧ digits.all Char.isDigit then
      some (if negative then -(value digits : Int) else value digits)
    else none

/-- Digits with a point among them and an exponent after them, both of which may be absent. -/
def unsigned? (negative : Bool) (text : List Char) : Option Double := do
  let whole := text.takeWhile Char.isDigit
  let rest := text.drop whole.length
  let (fraction, rest) := match rest with
    | '.' :: rest => (rest.takeWhile Char.isDigit, rest.dropWhile Char.isDigit)
    | rest => ([], rest)
  if whole.isEmpty && fraction.isEmpty then failure
  let e ← exponent? rest
  return nearest negative (value (whole ++ fraction)) (e - fraction.length)

/-- A numeral, infinity or no number by name, after an optional sign. -/
def Double.ofText? (text : String) : Option Double :=
  let (negative, rest) := match text.toList with
    | '-' :: rest => (true, rest)
    | '+' :: rest => (false, rest)
    | rest => (false, rest)
  let name := String.ofList (rest.map Char.toLower)
  if name = "inf" ∨ name = "infinity" then
    some (.ofFloat (if negative then -(1 / 0) else 1 / 0))
  else if name = "nan" then some (.ofFloat (0 / 0))
  else unsigned? negative rest

end Dashboard.Decimal
