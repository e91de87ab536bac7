import Dashboard.Json.Fault

/-!
# Numerals

A numeral is read in two steps: its digits are gathered, then its value is
computed. Digits past the largest 64-bit number only scale the value. A
fraction or an exponent makes it a double: the digits, rounded once, are
multiplied or divided by one power of ten, rounded again.
-/

namespace Dashboard.Json

structure Numeral where
  negative : Bool
  whole : List Nat
  /-- Digits after the point, when there is one. -/
  fraction : Option (List Nat)
  /-- Sign and digits after the `e`, when there is one. -/
  exponent : Option (Bool × List Nat)
  deriving DecidableEq, Repr

/-! ## Gathering digits -/

def digit? (c : Char) : Option Nat :=
  if '0' ≤ c ∧ c ≤ '9' then some (c.toNat - '0'.toNat) else none

/-- The digits at the head of a text, and what follows them. -/
def digits : List Char → List Nat × List Char
  | [] => ([], [])
  | c :: rest =>
    match digit? c with
    | some d => let (ds, rest) := digits rest; (d :: ds, rest)
    | none => ([], c :: rest)

/-- What is found where a numeral begins: a numeral and its length, or the problem of a reader that
uses the value, that of one that passes over it, and where the two see it. -/
inductive NumeralScan where
  | numeral (n : Numeral) (length : Nat)
  | broken (used passed : Problem) (length : Nat)

private def digitsNeeded (rest : List Char) (length : Nat) : NumeralScan :=
  if rest.isEmpty then .broken .endInValue .badNumber length
  else .broken .badNumber .badNumber (length + 1)

/-- The exponent after the first `length` characters of a numeral. -/
def scanExponent (n : Numeral) (length : Nat) : List Char → NumeralScan
  | [] => .numeral n length
  | c :: rest =>
    if c = 'e' ∨ c = 'E' then
      let (negative, signs, rest) := match rest with
        | '+' :: rest => (false, 1, rest)
        | '-' :: rest => (true, 1, rest)
        | rest => (false, 0, rest)
      match digits rest with
      | ([], rest) => digitsNeeded rest (length + 1 + signs)
      | (ds, _) => .numeral { n with exponent := some (negative, ds) } (length + 1 + signs + ds.length)
    else .numeral n length

def scanFraction (n : Numeral) (length : Nat) : List Char → NumeralScan
  | '.' :: rest =>
    match digits rest with
    | ([], rest) => digitsNeeded rest (length + 1)
    | (ds, rest) => scanExponent { n with fraction := some ds } (length + 1 + ds.length) rest
  | rest => scanExponent n length rest

/-- Scans a numeral whose sign, if it has one, is the first character. -/
def scanNumeral (text : List Char) : NumeralScan :=
  let (negative, signs, rest) := match text with
    | '-' :: rest => (true, 1, rest)
    | rest => (false, 0, rest)
  match digits rest with
  | ([], rest) => digitsNeeded rest signs
  | (0 :: _ :: _, _) => .broken .badNumber .badNumber (signs + 2)
  | (ds, rest) => scanFraction ⟨negative, ds, none, none⟩ (signs + ds.length) rest

/-! ## Values -/

def maxWord : Nat := 0xFFFFFFFFFFFFFFFF

/-- A number read digit by digit: what 64 bits hold of it, and how many digits did not fit. -/
structure Significand where
  value : Nat
  dropped : Nat
  deriving DecidableEq, Repr

/-- Once a digit of the whole part does not fit, it and all after it are dropped. -/
def wholePart (s : Significand) : List Nat → Significand
  | [] => s
  | d :: rest =>
    if s.dropped = 0 ∧ s.value * 10 + d ≤ maxWord then wholePart ⟨s.value * 10 + d, 0⟩ rest
    else wholePart ⟨s.value, s.dropped + 1⟩ rest

/-- The value and the number of digits of the fraction that fit. -/
def fractionPart (value : Nat) : List Nat → Nat × Nat
  | [] => (value, 0)
  | d :: rest =>
    if value * 10 + d ≤ maxWord then
      let (value, taken) := fractionPart (value * 10 + d) rest
      (value, taken + 1)
    else (value, 0)

/-- An exponent, or the number of digits after the one that made it exceed 31 bits. -/
def exponentPart (value : Nat) : List Nat → Except Nat Nat
  | [] => .ok value
  | d :: rest =>
    if value * 10 + d ≤ 0x7FFFFFFF then exponentPart (value * 10 + d) rest else .error rest.length

def powerOfTen (n : Nat) : Float := Float.ofScientific 1 false n

/-- `x * 10 ^ exponent`, or nothing when that exceeds the doubles. Exponents below `-308` are
taken in steps of `308`. -/
def scaled (x : Float) (exponent : Int) : Nat → Option Float
  | 0 => some x
  | fuel + 1 =>
    if exponent.natAbs ≤ 308 then
      if 0 ≤ exponent then
        let y := x * powerOfTen exponent.natAbs
        if y.isInf then none else some y
      else some (x / powerOfTen exponent.natAbs)
    else if x == 0 then some x
    else if 0 ≤ exponent then none
    else scaled (x / powerOfTen 308) (exponent + 308) fuel

def signed (negative : Bool) (x : Float) : Number :=
  .real (Double.ofFloat (if negative then -x else x))

/-- The value of a numeral, or the number of its characters after the place where it is found to
exceed the doubles. -/
def Numeral.value (n : Numeral) : Except Nat Number :=
  let whole := wholePart ⟨0, 0⟩ n.whole
  if n.fraction.isNone ∧ n.exponent.isNone ∧ whole.dropped = 0 then
    if !n.negative then .ok (.int whole.value)
    else if whole.value = 0 ∨ 0x8000000000000000 < whole.value then .ok (signed true (Float.ofNat whole.value))
    else .ok (.int (-whole.value))
  else
    let (value, taken) := fractionPart whole.value (n.fraction.getD [])
    let (negative, ds) := n.exponent.getD (false, [])
    match exponentPart 0 ds with
    | .error left =>
      if value ≠ 0 ∧ !negative then .error left else .ok (signed n.negative 0)
    | .ok e =>
      let e : Int := if negative then -e else e
      match scaled (Float.ofNat value) (whole.dropped - taken + e) 8 with
      | some x => .ok (signed n.negative x)
      | none => .error 0

end Dashboard.Json
