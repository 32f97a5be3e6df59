/-!
# Places in messages

A message may end in the place that it speaks of: ` at line L column C`, both numbers of 64 bits in
base ten. Lines are counted from one, so line 0 is no place at all. `Place.settle` writes such an
end in its one form: the numbers without leading zeros, and nothing for line 0.
-/

namespace CredStore.Text

/-- A place in a text of several lines. -/
structure Place where
  line : Nat
  column : Nat
  deriving DecidableEq, Repr

namespace Place

/-- The number that ends a text, and what is before it, when it fits 64 bits and follows `words`.
Both texts are given from their ends to their beginnings. -/
def number? (words : List Char) (s : List Char) : Option (Nat × List Char) :=
  let ds := s.takeWhile Char.isDigit
  let rest := s.dropWhile Char.isDigit
  let n := Nat.ofDigitChars 10 ds.reverse 0
  if ds ≠ [] ∧ n < 18446744073709551616 ∧ words.isPrefixOf rest then
    some (n, rest.drop words.length)
  else none

/-- A message without the place at its end, and this place. -/
def split? (s : List Char) : Option (List Char × Place) := do
  let (column, s) ← number? " column ".toList.reverse s.reverse
  let (line, s) ← number? " at line ".toList.reverse s
  return (s.reverse, ⟨line, column⟩)

/-- The end that names a place. -/
def text (p : Place) : String :=
  if p.line = 0 then ""
  else " at line " ++ toString p.line ++ " column " ++ toString p.column

/-- A message with the place at its end in its one form. -/
def settle (message : String) : String :=
  match split? message.toList with
  | some (s, p) => String.ofList s ++ p.text
  | none => message

end Place

end CredStore.Text
