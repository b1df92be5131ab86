import ComponentMarkup.Text.LetterCase

/-!
# Similar words

## Main definitions

* `editDistance` — how many single characters have to be inserted, removed or replaced to get from
  one text to another.
* `similar` — the candidates that are nearest to a word.
-/

namespace ComponentMarkup.Text

/-- The distances from a text with `a` at its end to the beginnings of `bs`, from those without the
`a`; `left` is the distance to the beginning before. -/
def nextRow (a : Char) (left : Nat) : List Char → List Nat → List Nat
  | b :: bs, diagonal :: above :: more =>
    let here := min (min (above + 1) (left + 1)) (diagonal + if a = b then 0 else 1)
    here :: nextRow a here bs (above :: more)
  | _, _ => []

/-- Goes on through a text, where `row` are the distances from `count` characters of it to the
beginnings of `bs`. -/
def rows (bs : List Char) (row : List Nat) (count : Nat) : List Char → List Nat
  | [] => row
  | a :: as => rows bs ((count + 1) :: nextRow a (count + 1) bs row) (count + 1) as

def editDistance (as bs : List Char) : Nat :=
  (rows bs (List.range (bs.length + 1)) 0 as).getLast?.getD 0

/-- Nearer candidates first, and in alphabetical order among those of one distance. -/
def nearer (a b : Nat × String) : Bool := a.1 < b.1 || (a.1 = b.1 && a.2 ≤ b.2)

/-- At most three candidates within `reach` of the word, letter case aside. -/
def similar (word : String) (candidates : List String) (reach : Int := 2) : List String :=
  let word := lowercase word.toList
  let scored := candidates.map fun c => (editDistance word (lowercase c.toList), c)
  (((scored.filter fun (d, _) => d ≤ reach).mergeSort nearer).map (·.2)).take 3

end ComponentMarkup.Text
