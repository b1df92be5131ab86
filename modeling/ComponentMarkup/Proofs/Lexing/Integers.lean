import ComponentMarkup.Proofs.Lexing.Spellings
import Mathlib.Algebra.Group.Nat.Defs

/-!
# Integers of a source

An integer is read only if it does not have too many digits, so it can also be written.

## Main statements

* `Numeral.natural_lt` — a number has no more digits than it is written with.
* `lt_of_lex_integer` — the bound of all integers of a source.
-/

namespace ComponentMarkup

namespace Numeral

/-- The digits read so far are worth at most `n`. -/
theorem foldl_lt {ds : List Nat} (h : ∀ d ∈ ds, d < 10) (n : Nat) :
    ds.foldl (fun n d => 10 * n + d) n < (n + 1) * 10 ^ ds.length := by
  induction ds generalizing n with
  | nil => simp
  | cons d ds ih =>
    obtain ⟨hd, hds⟩ := List.forall_mem_cons.1 h
    calc ds.foldl (fun n d => 10 * n + d) (10 * n + d)
        < (10 * n + d + 1) * 10 ^ ds.length := ih hds _
      _ ≤ (10 * (n + 1)) * 10 ^ ds.length := Nat.mul_le_mul_right _ (by omega)
      _ = (n + 1) * 10 ^ (d :: ds).length := by
        rw [List.length_cons, Nat.pow_succ]
        grind

theorem natural_lt {ds : List Nat} (h : ∀ d ∈ ds, d < 10) : natural ds < 10 ^ ds.length := by
  simpa [natural] using foldl_lt h 0

theorem digit_lt {run : List Char} : ∀ d ∈ digits run, d < 10 := by
  intro d hd
  obtain ⟨c, -, value⟩ := List.mem_filterMap.1 hd
  exact Text.digitValue?_lt value

end Numeral

namespace Piece

/-- A token that stands for an integer with at most so many digits, or for something else. -/
def IsBounded (content : Content) : Prop := ∀ n, content = .integer n → n < 10 ^ maxDigits

theorem isBounded_of_numeralAs {n : Numeral} {s rest : List Char} {content : Content}
    {lexeme : List Char} (h : NumeralAs n s (.ok (.token content lexeme, rest))) :
    IsBounded content := by
  cases h with
  | integer _ _ few =>
    rintro _ ⟨rfl⟩
    exact Nat.lt_of_lt_of_le (Numeral.natural_lt Numeral.digit_lt)
      (Nat.pow_le_pow_right (by decide) few)
  | float => nofun

theorem isBounded_of_read {c : Char} {cs rest : List Char} {content : Content}
    {lexeme : List Char} (h : read c cs = .ok (.token content lexeme, rest)) :
    IsBounded content := by
  cases readAs_iff.2 h with
  | numeral _ _ numeral => exact isBounded_of_numeralAs numeral
  | name =>
    unfold nameContent
    split
    · nofun
    · split <;> nofun
  | string | mark => nofun

end Piece

theorem lt_of_lex_integer {file source : String} {x : Lexing} (h : lex file source = .ok x)
    {t : Token} (mem : t ∈ x.tokens) {n : Nat} (integer : t.content = .integer n) :
    n < 10 ^ maxDigits := by
  obtain ⟨ps, hps, -, rfl⟩ := lex_eq_ok_iff.1 h
  exact Lexing.forall_mem_tokens Piece.isBounded_of_read hps _ t mem n integer

end ComponentMarkup
