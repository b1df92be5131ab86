/-!
# Code points

A string value may hold any code point of Unicode, lone surrogates included, and a surrogate is no
`Char`. String values are therefore lists of code points.

## Main definitions

* `CodePoint` — a number below `0x110000`.
* `CodePoint.ofChar`, `CodePoint.toChar?` — the characters among them.
-/

namespace ComponentMarkup.Text

structure CodePoint where
  val : Nat
  val_lt : val < 0x110000
deriving DecidableEq

namespace CodePoint

def ofChar (c : Char) : CodePoint where
  val := c.toNat
  val_lt := by
    have := c.valid
    simp only [UInt32.isValidChar, Nat.isValidChar] at this
    simp only [Char.toNat]
    omega

def IsSurrogate (p : CodePoint) : Prop := 0xD800 ≤ p.val ∧ p.val < 0xE000

instance (p : CodePoint) : Decidable p.IsSurrogate := by unfold IsSurrogate; infer_instance

/-- The character at `p`, unless `p` is a surrogate. -/
def toChar? (p : CodePoint) : Option Char :=
  if p.IsSurrogate then none else some (.ofNat p.val)

theorem ofChar_not_isSurrogate (c : Char) : ¬ (ofChar c).IsSurrogate := by
  have := c.valid
  simp only [UInt32.isValidChar, Nat.isValidChar] at this
  simp only [IsSurrogate, ofChar, Char.toNat]
  omega

@[simp] theorem toChar?_ofChar (c : Char) : (ofChar c).toChar? = some c := by
  rw [toChar?, if_neg (ofChar_not_isSurrogate c)]
  simp [ofChar]

end CodePoint

/-- The characters of a string value, if none of its code points is a surrogate. -/
def charsOf? (s : List CodePoint) : Option (List Char) := s.mapM CodePoint.toChar?

end ComponentMarkup.Text
