/-!
# Host names beyond ASCII

A label with other letters is written in ASCII: first its ASCII characters,
then where the others go. They are inserted in ascending order, equal ones from
left to right. Between two insertions lies a distance, the number of code
points and places passed, which is written with digits of varying weight.
-/

namespace Dashboard.Punycode

/-! ## Distances in digits -/

/-- The digits are the letters and then the figures. -/
def digit (n : Nat) : Char := if n < 26 then Char.ofNat (97 + n) else Char.ofNat (22 + n)

/-- The least value a digit must reach for another digit to follow it. -/
def threshold (bias weight : Nat) : Nat := min (max (weight - bias) 1) 26

theorem threshold_pos (bias weight : Nat) : 0 < threshold bias weight := by
  unfold threshold; omega

/-- The digits of a distance from the one of this weight on. -/
def digits (bias weight distance : Nat) : List Char :=
  let least := threshold bias weight
  if distance < least then [digit distance]
  else
    let further := distance - least
    digit (least + further % (36 - least)) :: digits bias (weight + 36) (further / (36 - least))
termination_by distance
decreasing_by
  have hpos := threshold_pos bias weight
  have hle := Nat.div_le_self (distance - threshold bias weight) (36 - threshold bias weight)
  have : ¬distance < threshold bias weight := ‹_›
  omega

/-- The bias for distances of about this size. -/
def biasOf (size : Nat) : Nat :=
  if 455 < size then biasOf (size / 35) + 36 else 36 * size / (size + 38)
termination_by size
decreasing_by omega

/-- The bias after a distance, when the label has grown to `length`. -/
def nextBias (distance length : Nat) (first : Bool) : Nat :=
  let size := if first then distance / 700 else distance / 2
  biasOf (size + size / length)

/-! ## Insertions -/

/-- The code points beyond ASCII with the places where they are inserted: behind the characters
before them that are in the label by then. -/
def insertionsAfter (before : List Char) : List Char → List (Nat × Nat)
  | [] => []
  | c :: rest =>
    let others := insertionsAfter (before ++ [c]) rest
    if c.toNat < 128 then others
    else (c.toNat, before.countP fun b => b.toNat ≤ c.toNat) :: others

/-- All insertions, in the order in which they are made. -/
def insertions (label : List Char) : List (Nat × Nat) :=
  (insertionsAfter [] label).mergeSort fun a b => a.1 ≤ b.1

/-- Writes insertions into a label of `length`, `place` being the first place not yet passed at
code point `point`. -/
def write (point place length bias : Nat) (first : Bool) : List (Nat × Nat) → List Char
  | [] => []
  | (next, goal) :: rest =>
    let distance := (next - point) * (length + 1) + goal - place
    digits bias 36 distance ++
      write next (goal + 1) (length + 1) (nextBias distance (length + 1) first) false rest

def encode (label : List Char) : List Char :=
  match insertions label with
  | [] => label
  | insertions =>
    let plain := label.filter fun c => c.toNat < 128
    "xn--".toList ++ plain ++ (if plain.isEmpty then [] else ['-'])
      ++ write 128 0 plain.length 72 true insertions

end Dashboard.Punycode
