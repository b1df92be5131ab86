import ComponentMarkup.Proofs.Lexing.Placement

/-!
# How tokens are spelled

The characters that a token of each kind consists of, and what follows for the tokens of a source.

## Main definitions

* `IsSpelling` — the texts that a token can have.

## Main statements

* `Piece.isSpelling_of_read` — a token is spelled as its kind asks for.
* `isSpelling_of_lex` — so are all tokens of a source.
-/

namespace ComponentMarkup

open Source (Location)

/-- A character of a floating-point numeral. -/
def isNumeralPart (c : Char) : Bool := isRunPart c || c ∈ ['.', 'e', 'E', '+', '-']

theorem isNamePart_of_isNameStart {c : Char} (h : isNameStart c = true) : isNamePart c = true := by
  unfold isNameStart at h
  unfold isNamePart
  grind

/-- The texts of a token, by what the token stands for. -/
inductive IsSpelling : Content → List Char → Prop where
  | integer {n : Nat} {s : List Char} :
      s ≠ [] → (∀ c ∈ s, isRunPart c = true) → IsSpelling (.integer n) s
  | float {x : Decimal.Binary64} {s : List Char} :
      s ≠ [] → (∀ c ∈ s, isNumeralPart c = true) → IsSpelling (.float x) s
  | name {c : Char} {cs : List Char} :
      isNameStart c = true → (∀ d ∈ cs, isNamePart d = true) →
      IsSpelling (Piece.nameContent (c :: cs)) (c :: cs)
  | string {body : List Char} :
      IsSpelling (.string (StringLiteral.decode body)) ('"' :: body ++ ['"'])
  | mark (m : Mark) : IsSpelling (.mark m) [m.char]

namespace IsSpelling

variable {content : Content} {s : List Char}

theorem ne_nil (h : IsSpelling content s) : s ≠ [] := by
  cases h <;> simp_all

/-- The end of a source is no token of the source. -/
theorem ne_eof (h : IsSpelling content s) : content ≠ .eof := by
  cases h with
  | name => grind [Piece.nameContent]
  | integer | float | string | mark => nofun

theorem eq_of_mark {m : Mark} (h : IsSpelling (.mark m) s) : s = [m.char] := by
  generalize eq : Content.mark m = content at h
  cases h with
  | name => grind [Piece.nameContent]
  | integer | float | string => cases eq
  | mark =>
    cases eq
    rfl

end IsSpelling

/-! ## Numerals -/

theorem isRunPart_of_digitRun? {s run rest : List Char} (h : digitRun? s = some (run, rest)) :
    ∀ c ∈ run, isRunPart c = true :=
  (digitRun?_eq_some_iff.1 h).2.1.isRunPart_of_mem

theorem isNumeralPart_of_isRunPart {c : Char} (h : isRunPart c = true) :
    isNumeralPart c = true := by
  simp [isNumeralPart, h]

namespace Numeral

theorem isNumeralPart_fraction {s rest : List Char} {f : Option (List Char)}
    (h : scanFraction s = (f, rest)) : ∀ c ∈ fractionText f, isNumeralPart c = true := by
  cases f with
  | none => nofun
  | some run =>
    obtain ⟨cs, -, found⟩ := scanFraction_eq_some_iff.1 h
    refine List.forall_mem_cons.2 ⟨by decide, fun c hc => ?_⟩
    exact isNumeralPart_of_isRunPart (isRunPart_of_digitRun? found c hc)

theorem isNumeralPart_exponent {s rest : List Char} {e : Option Exponent}
    (h : scanExponent s = (e, rest)) : ∀ c ∈ exponentText e, isNumeralPart c = true := by
  cases e with
  | none => nofun
  | some e =>
    have found := scanExponent_eq_some_iff.1 h
    obtain ⟨letter, sign, isLetter, isSign, mark, t, -, run⟩ := Exponent.scan?_eq_some_iff.1 found
    have isMark : ∀ c ∈ e.mark, isNumeralPart c = true := by
      rw [mark]
      refine List.all_eq_true.1 ?_
      rcases isLetter with rfl | rfl <;> rcases isSign with rfl | rfl | rfl <;> decide
    intro c hc
    rcases List.mem_append.1 hc with hc | hc
    · exact isMark c hc
    · exact isNumeralPart_of_isRunPart (isRunPart_of_digitRun? run c hc)

theorem isNumeralPart_of_scan {s rest : List Char} {n : Numeral} (h : scan s = some (n, rest)) :
    (∀ c ∈ n.whole, isRunPart c = true) ∧ ∀ c ∈ n.text, isNumeralPart c = true := by
  obtain ⟨t, u, run, fraction, exponent⟩ := scan_eq_some_iff.1 h
  refine ⟨isRunPart_of_digitRun? run, fun c hc => ?_⟩
  rcases List.mem_append.1 hc with hc | hc
  · rcases List.mem_append.1 hc with hc | hc
    · exact isNumeralPart_of_isRunPart (isRunPart_of_digitRun? run c hc)
    · exact isNumeralPart_fraction fraction c hc
  · exact isNumeralPart_exponent exponent c hc

/-- An integer is its digits. -/
theorem text_of_isInteger {n : Numeral} (h : n.isInteger = true) : n.text = n.whole := by
  obtain ⟨whole, fraction, exponent⟩ := n
  cases fraction <;> cases exponent <;> simp_all [isInteger, text, fractionText, exponentText]

end Numeral

/-! ## Tokens -/

namespace Piece

theorem isSpelling_of_numeralAs {n : Numeral} {s rest s' rest' : List Char} {content : Content}
    {lexeme : List Char} (scanned : Numeral.scan s = some (n, rest))
    (h : NumeralAs n s' (.ok (.token content lexeme, rest'))) : IsSpelling content lexeme := by
  obtain ⟨whole, text⟩ := Numeral.isNumeralPart_of_scan scanned
  have ne := Numeral.text_ne_nil_of_scan scanned
  cases h with
  | integer isInteger =>
    rw [Numeral.text_of_isInteger isInteger] at ne ⊢
    exact .integer ne whole
  | float => exact .float ne text

theorem isDecimal_of_scan {c : Char} {cs rest : List Char} {n : Numeral}
    (h : Numeral.scan (c :: cs) = some (n, rest)) : Text.isDecimal c = true := by
  by_contra none
  rw [Numeral.scan_eq_none_iff.2 (by simpa using none)] at h
  cases h

/-- Numbers and nothing else start with a decimal digit. -/
theorem isDecimal_iff_of_read {c : Char} {cs rest : List Char} {content : Content}
    {lexeme : List Char} (h : read c cs = .ok (.token content lexeme, rest)) :
    Text.isDecimal c = true ↔ content.kind = .integer ∨ content.kind = .float := by
  cases readAs_iff.2 h with
  | @numeral n _ _ _ scanned numeral =>
    refine iff_of_true (isDecimal_of_scan scanned) ?_
    rw [numeral.kind_eq]
    cases n.isInteger <;> simp
  | name _ noDecimal =>
    refine iff_of_false (by simp [noDecimal]) ?_
    unfold nameContent
    split
    · nofun
    · split <;> nofun
  | string quote =>
    subst quote
    exact iff_of_false (by decide) nofun
  | mark m eq =>
    subst eq
    exact iff_of_false (by cases m <;> decide) nofun

/-- What starts with a decimal digit is no gap. -/
theorem isGap_of_isDecimal {c : Char} {cs rest : List Char} {p : Piece}
    (h : read c cs = .ok (p, rest)) (decimal : Text.isDecimal c = true) : p.isGap = false := by
  cases readAs_iff.2 h with
  | blank blank =>
    rw [Text.not_isDecimal_of_isBlank blank] at decimal
    cases decimal
  | comment slash =>
    subst slash
    exact absurd decimal (by decide)
  | numeral _ _ numeral => cases numeral <;> rfl
  | name | string | openString | mark | invalidCharacter => rfl

theorem exists_text_of_read {c : Char} {cs rest : List Char} {p : Piece}
    (h : read c cs = .ok (p, rest)) : ∃ more, p.text = c :: more ∧ cs = more ++ rest := by
  have whole := append_of_read h
  cases text : p.text with
  | nil => exact absurd text (text_ne_nil_of_read h)
  | cons d more =>
    rw [text, List.cons_append, List.cons.injEq] at whole
    exact ⟨more, by rw [whole.1], whole.2.symm⟩

theorem isSpelling_of_read {c : Char} {cs rest : List Char} {content : Content}
    {lexeme : List Char} (h : read c cs = .ok (.token content lexeme, rest)) :
    IsSpelling content lexeme := by
  cases readAs_iff.2 h with
  | numeral _ scanned numeral => exact isSpelling_of_numeralAs scanned numeral
  | name _ _ start => exact .name start fun _ => List.mem_takeWhile_imp
  | string => exact .string
  | mark m eq =>
    rw [← eq]
    exact .mark m

end Piece

namespace Lexing

theorem isSpelling_of_ofSource {file : String} {source : List Char} {x : Lexing}
    (h : ofSource file source = .ok x) : ∀ t ∈ x.tokens, IsSpelling t.content t.lexeme.toList := by
  obtain ⟨ps, hps, rfl⟩ := map_eq_ok.1 h
  exact forall_mem_tokens Piece.isSpelling_of_read hps _

end Lexing

/-- The tokens of a source without errors are those of its pieces. -/
theorem isSpelling_of_lex {file source : String} {x : Lexing} (h : lex file source = .ok x) :
    ∀ t ∈ x.tokens, IsSpelling t.content t.lexeme.toList := by
  obtain ⟨ps, hps, -, rfl⟩ := lex_eq_ok_iff.1 h
  exact Lexing.forall_mem_tokens Piece.isSpelling_of_read hps _

end ComponentMarkup
