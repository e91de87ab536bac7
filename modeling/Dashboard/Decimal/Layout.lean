import Dashboard.Decimal.Shortest

/-!
# How a decimal is laid out

A number is written positionally or with an exponent. A `Layout` says which
one a number of a given size gets and whether a whole number keeps a point.
-/

namespace Dashboard.Decimal

structure Layout where
  /-- Whether a number whose first digit stands for `10 ^ e` is written without an exponent. -/
  positional : Int → Bool
  /-- Whether a whole number ends in `.0`. -/
  pointed : Bool

private def zeros (n : Nat) : List Char := List.replicate n '0'

/-- The digits of `d`, most significant first. -/
def Expansion.text (d : Expansion) : List Char := Nat.toDigits 10 d.digits

def Layout.positionalText (l : Layout) (d : Expansion) : List Char :=
  let digits := d.text
  let place := digits.length + d.exponent
  if 0 ≤ d.exponent then
    digits ++ zeros d.exponent.toNat ++ (if l.pointed then ['.', '0'] else [])
  else if 0 < place then
    digits.take place.toNat ++ '.' :: digits.drop place.toNat
  else
    '0' :: '.' :: zeros (-place).toNat ++ digits

def scientificText (d : Expansion) : List Char :=
  let digits := d.text
  let exponent := digits.length + d.exponent - 1
  let mantissa := match digits with
    | first :: second :: rest => first :: '.' :: second :: rest
    | short => short
  mantissa ++ 'e' :: (if exponent < 0 then '-' else '+') :: Nat.toDigits 10 exponent.natAbs

def Layout.text (l : Layout) (d : Expansion) : List Char :=
  if l.positional (d.text.length + d.exponent - 1) then l.positionalText d else scientificText d

end Dashboard.Decimal
