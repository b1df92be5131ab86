/-!
# Binary floating-point numbers of 64 bits

The finite numbers of the format, each as a signed mantissa of at most 53 bits times a power of
two. Decimal numerals are rounded to the nearest one in exact arithmetic. Powers are `Nat.pow` by
name, so that no other instance of a power in scope is taken for them.

## Main definitions

* `Binary64` — sign, mantissa and exponent.
* `Binary64.ofRatio?` — the nearest number to a quotient, the even one of two.
* `Binary64.ofDecimal?` — the nearest number to `digits * 10 ^ exponent`.
-/

namespace ComponentMarkup.Decimal

/-- The quotient rounded to the nearest number, and to the even one half way between two. -/
def roundDiv (num den : Nat) : Nat :=
  let q := num / den
  let r := num % den
  if 2 * r < den then q else if den < 2 * r then q + 1 else q + q % 2

/-- How many digits the decimal numeral of `n` has. -/
def width (n : Nat) : Nat := (Nat.toDigits 10 n).length

/-- `mantissa * 2 ^ exponent`, negated if `negative`. The mantissa is below `2 ^ 53`, and below
`2 ^ 52` only at the least exponent `-1074`. -/
structure Binary64 where
  negative : Bool
  mantissa : Nat
  exponent : Int
deriving DecidableEq, Repr

namespace Binary64

def zero : Binary64 := ⟨false, 0, -1074⟩

def neg (x : Binary64) : Binary64 := { x with negative := !x.negative }

instance : Neg Binary64 := ⟨neg⟩

/-- The greatest `k` with `2 ^ k ≤ num / den`. -/
def log2Div (num den : Nat) : Int :=
  let k : Int := (num.log2 : Int) - den.log2
  if den * Nat.pow 2 k.toNat ≤ num * Nat.pow 2 (-k).toNat then k else k - 1

/-- `none` when the quotient is beyond the greatest number. -/
def ofRatio? (num den : Nat) : Option Binary64 :=
  if num = 0 then some zero
  else
    let e := max (log2Div num den - 52) (-1074)
    let m := roundDiv (num * Nat.pow 2 (-e).toNat) (den * Nat.pow 2 e.toNat)
    let (m, e) := if m = Nat.pow 2 53 then (Nat.pow 2 52, e + 1) else (m, e)
    if e ≤ 971 then some ⟨false, m, e⟩ else none

/-- Numerals far outside the range are settled by their magnitude, before any power is taken. -/
def ofDecimal? (digits : Nat) (exponent : Int) : Option Binary64 :=
  if digits = 0 then some zero
  else
    let magnitude := (width digits : Int) + exponent
    if 310 ≤ magnitude then none
    else if magnitude ≤ -324 then some zero
    else ofRatio? (digits * Nat.pow 10 exponent.toNat) (Nat.pow 10 (-exponent).toNat)

end Binary64

end ComponentMarkup.Decimal
