import ComponentMarkup.Decimal.Binary64

/-!
# The shortest decimal

The fewest digits from which a number is read back, and the nearest decimal with so many digits.

## Main definitions

* `Reach` — the interval of the decimals that are read as one number, in quarters of its last bit.
* `onGrid?` — the decimal of that interval on the grid of `n` digits that lies nearest.
* `shortest` — the first grid that has one.
-/

namespace ComponentMarkup.Decimal

/-- The decimals from `lo * 2 ^ scale` to `hi * 2 ^ scale` around `mid * 2 ^ scale`; the two ends
are among them if `closed`. -/
structure Reach where
  lo : Nat
  mid : Nat
  hi : Nat
  scale : Int
  closed : Bool

namespace Reach

/-- Below a power of two the neighbours are twice as close. -/
def of (x : Binary64) : Reach :=
  let below := if x.mantissa = Nat.pow 2 52 ∧ x.exponent > -1074 then 1 else 2
  ⟨4 * x.mantissa - below, 4 * x.mantissa, 4 * x.mantissa + 2, x.exponent - 2,
    x.mantissa % 2 == 0⟩

/-- The greatest `k` with `10 ^ k ≤ mid * 2 ^ scale`. -/
def log10 (r : Reach) : Int :=
  let num := r.mid * Nat.pow 2 r.scale.toNat
  let den := Nat.pow 2 (-r.scale).toNat
  if den ≤ num then (width (num / den) : Int) - 1 else -(width ((den - 1) / num) : Int)

/-- Whether `d * 10 ^ k` is in the interval. -/
def holds (r : Reach) (d : Nat) (k : Int) : Bool :=
  let point := d * Nat.pow 10 k.toNat * Nat.pow 2 (-r.scale).toNat
  let unit := Nat.pow 2 r.scale.toNat * Nat.pow 10 (-k).toNat
  if r.closed then r.lo * unit ≤ point && point ≤ r.hi * unit
  else r.lo * unit < point && point < r.hi * unit

/-- The multiple of `10 ^ k` in the interval that is nearest to its middle, if there is one: one of
the two around the middle, the even one half way between them. -/
def onGrid? (r : Reach) (k : Int) : Option Nat :=
  let num := r.mid * Nat.pow 2 r.scale.toNat * Nat.pow 10 (-k).toNat
  let den := Nat.pow 2 (-r.scale).toNat * Nat.pow 10 k.toNat
  let near := roundDiv num den
  let floor := num / den
  let far := if near = floor then floor + 1 else floor
  if r.holds near k then some near else if r.holds far k then some far else none

end Reach

/-- Digits `d` and a power `k` such that `d * 10 ^ k` is the shortest decimal of a number other
than zero. Seventeen digits always do. -/
def shortest (x : Binary64) : Nat × Int :=
  let r := Reach.of x
  let top := r.log10
  let grid (n : Nat) : Option (Nat × Int) :=
    let k := top - n
    (r.onGrid? k).map fun d => if d = Nat.pow 10 (n + 1) then (1, top + 1) else (d, k)
  ((List.range 17).findSome? grid).getD (x.mantissa, x.exponent)

end ComponentMarkup.Decimal
