/-!
# Shifts between letter cases

Most case mappings move a whole run of characters by one distance; in some runs every second
character is moved.

## Main definitions

* `CaseShift` — a run of code points `lo`, `lo + step`, … up to `hi` and the distance they move.
* `CaseShift.apply` — the code point that a list of ascending shifts moves `n` to.
-/

namespace ComponentMarkup.Text

structure CaseShift where
  lo : Nat
  hi : Nat
  step : Nat
  distance : Int

namespace CaseShift

/-- A code point outside every run stays where it is. -/
def apply : List CaseShift → Nat → Nat
  | [], n => n
  | s :: ss, n =>
    if n < s.lo then n
    else if n ≤ s.hi && (n - s.lo) % s.step == 0 then (n + s.distance).toNat
    else apply ss n

end CaseShift

end ComponentMarkup.Text
