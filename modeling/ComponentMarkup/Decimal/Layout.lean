import ComponentMarkup.Decimal.Shortest

/-!
# The text of a floating-point number

The shortest decimal is written positionally for the usual magnitudes and with an exponent beyond
them.

## Main definitions

* `positional` — the exponents of the leading digit that are written positionally.
* `Binary64.text` — always with a point or an exponent, so that it never reads as an integer.
-/

namespace ComponentMarkup.Decimal

def zeros (n : Nat) : String := "".pushn '0' n

/-- From `0.0001` up to but not including `1e16`. -/
def positional (exponent : Int) : Bool := -4 ≤ exponent && exponent < 16

/-- Digits with their point; the leading digit stands for `10 ^ exponent`. -/
def layOutPositional (digits : List Char) (exponent : Int) : String :=
  if exponent < 0 then "0." ++ zeros (-exponent - 1).toNat ++ .ofList digits
  else
    let whole := exponent.toNat + 1
    if digits.length ≤ whole then .ofList digits ++ zeros (whole - digits.length) ++ ".0"
    else .ofList (digits.take whole) ++ "." ++ .ofList (digits.drop whole)

/-- One digit before the point, and a signed exponent of at least two digits. -/
def layOutScientific (digits : List Char) (exponent : Int) : String :=
  let size := toString exponent.natAbs
  String.ofList (digits.take 1)
    ++ (if digits.length ≤ 1 then "" else "." ++ .ofList (digits.drop 1))
    ++ "e" ++ (if exponent < 0 then "-" else "+") ++ zeros (2 - size.length) ++ size

def Binary64.text (x : Binary64) : String :=
  (if x.negative then "-" else "") ++
    if x.mantissa = 0 then "0.0"
    else
      let (d, k) := shortest x
      let digits := Nat.toDigits 10 d
      let exponent := k + digits.length - 1
      if positional exponent then layOutPositional digits exponent
      else layOutScientific digits exponent

end ComponentMarkup.Decimal
