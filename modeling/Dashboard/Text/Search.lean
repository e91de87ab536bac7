/-!
# Searching texts

`split?` cuts a text at the first place where a marker stands, `splitBy` at
every character of a kind, and `dropEnd` takes such characters from its end.
-/

namespace Dashboard.Text

/-- What stands before and after the first occurrence of `marker`. -/
def split? (marker : List Char) : List Char → Option (List Char × List Char)
  | [] => if marker.isEmpty then some ([], []) else none
  | c :: rest =>
    if marker.isPrefixOf (c :: rest) then some ([], (c :: rest).drop marker.length)
    else (split? marker rest).map fun (before, after) => (c :: before, after)

/-- The text without the characters at its end that `p` holds of. -/
def dropEnd (p : Char → Bool) (text : List Char) : List Char :=
  (text.reverse.dropWhile p).reverse

/-- The parts of a text between the characters that `p` holds of. -/
def splitBy (p : Char → Bool) : List Char → List (List Char)
  | [] => [[]]
  | c :: rest =>
    if p c then [] :: splitBy p rest
    else
      match splitBy p rest with
      | [] => [[c]]
      | first :: more => (c :: first) :: more

end Dashboard.Text
