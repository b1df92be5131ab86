import ComponentMarkup.Proofs.Lexing.Spellings

/-!
# Integers among the numerals

A run of digits is an integer if neither a fraction nor an exponent stands behind it. Such a run is
read as a token, is reported because of the underscore it ends with, or stops the reading of the
source because it is too long.

## Main definitions

* `IsWhole` — a run, with what makes it an integer behind it.
* `IsIntegerText` — the texts of an integer.

## Main statements

* `Numeral.scan_eq_integer_iff` — the texts that start with an integer.
* `Piece.read_of_scan` — a numeral is read as what it is.
* `Piece.read_run` — what a run that is an integer is read as.
* `Piece.isIntegerText_of_read`, `isIntegerText_of_ofSource` — the tokens that stand for an integer.
-/

namespace ComponentMarkup

/-- The run ends where `rest` starts, and it is the whole numeral. -/
structure IsWhole (run rest : List Char) : Prop where
  run : IsRun run
  stops : Stops isRunPart rest
  noFraction : Numeral.scanFraction rest = (none, rest)
  noExponent : Exponent.scan? rest = none

theorem Token.kind_eq_integer_iff {t : Token} :
    t.kind = .integer ↔ ∃ n, t.content = .integer n := by
  unfold Token.kind
  cases t.content <;> simp [Content.kind]

/-- A run that is read as the integer `n`. -/
structure IsIntegerText (n : Nat) (s : List Char) : Prop where
  run : IsRun s
  last : s.getLast? ≠ some '_'
  few : s.countP Text.isDecimal ≤ maxDigits
  value : n = Numeral.natural (Numeral.digits s)

namespace Text

theorem not_isDetachedDigit_of_isDecimal {c : Char} (h : isDecimal c = true) :
    isDetachedDigit c = false := by
  have all : ∀ n ∈ detachedDigits.points, (digitIn zeros n).isSome = false := by decide +kernel
  by_contra detached
  simp only [Bool.not_eq_false] at detached
  have := all _ (Ranges.mem_points_of_contains detached)
  simp_all [isDecimal, digitValue?]

theorem not_isBlank_of_isDecimal {c : Char} (h : isDecimal c = true) : isBlank c = false := by
  by_contra blank
  simp_all [not_isDecimal_of_isBlank]

theorem not_isBlank_of_isDetachedDigit {c : Char} (h : isDetachedDigit c = true) :
    isBlank c = false := by
  by_contra blank
  have := not_isNumeric_of_isBlank (by simpa using blank)
  simp_all [isNumeric]

end Text

namespace Numeral

theorem scan_eq_integer_iff {s run rest : List Char} :
    scan s = some (⟨run, none, none⟩, rest) ↔ s = run ++ rest ∧ IsWhole run rest := by
  constructor
  · intro h
    obtain ⟨t, u, whole, noFraction, noExponent⟩ := scan_eq_some_iff.1 h
    obtain rfl := scanFraction_eq_none noFraction
    obtain ⟨none, rfl⟩ := scanExponent_eq_none_iff.1 noExponent
    obtain ⟨rfl, isRun, stops⟩ := digitRun?_eq_some_iff.1 whole
    exact ⟨rfl, isRun, stops, noFraction, none⟩
  · rintro ⟨rfl, isRun, stops, noFraction, noExponent⟩
    exact scan_eq_some_iff.2 ⟨rest, rest, digitRun?_eq_some_iff.2 ⟨rfl, isRun, stops⟩, noFraction,
      scanExponent_eq_none_iff.2 ⟨noExponent, rfl⟩⟩

theorem isWhole_of_scan {s rest : List Char} {n : Numeral} (h : scan s = some (n, rest))
    (isInteger : n.isInteger = true) : s = n.whole ++ rest ∧ IsWhole n.whole rest := by
  obtain ⟨run, fraction, exponent⟩ := n
  cases fraction <;> cases exponent <;> simp [Numeral.isInteger] at isInteger
  exact scan_eq_integer_iff.1 h

theorem length_digits (run : List Char) : (digits run).length = run.countP Text.isDecimal :=
  List.length_filterMap_eq_countP ..

end Numeral

namespace Piece

/-- Where a numeral starts, it is what is read. -/
theorem read_of_scan {c : Char} {cs rest : List Char} {n : Numeral}
    {r : Except Abort (Piece × List Char)} (scanned : Numeral.scan (c :: cs) = some (n, rest))
    (numeral : NumeralAs n rest r) : read c cs = r := by
  have decimal := isDecimal_of_scan scanned
  have solid : IsSolid c cs := by
    refine ⟨Text.not_isBlank_of_isDecimal decimal, ?_, Text.not_isDetachedDigit_of_isDecimal decimal⟩
    rintro rfl
    exact absurd decimal (by decide)
  exact ReadAs.eq (.numeral solid scanned numeral)

theorem read_run {c : Char} {cs run rest : List Char} (eq : c :: cs = run ++ rest)
    (whole : IsWhole run rest) :
    read c cs =
      if run.getLast? = some '_' then .ok (badNumber .trailingUnderscore run rest)
      else if maxDigits < run.countP Text.isDecimal then .error (.tooManyDigits run)
      else .ok (.token (.integer (Numeral.natural (Numeral.digits run))) run, rest) := by
  have text : (⟨run, none, none⟩ : Numeral).text = run := Numeral.text_of_isInteger rfl
  rw [read_of_scan (Numeral.scan_eq_integer_iff.2 ⟨eq, whole⟩) (numeralAs_iff.2 rfl)]
  simp only [ofNumeral, Numeral.isInteger, Option.isNone_none, Bool.and_self, if_true, text,
    Numeral.length_digits]

/-- Only a run that is an integer is read as one. -/
theorem isWhole_of_read {c : Char} {cs rest : List Char} {n : Nat} {lexeme : List Char}
    (h : read c cs = .ok (.token (.integer n) lexeme, rest)) :
    c :: cs = lexeme ++ rest ∧ IsWhole lexeme rest := by
  generalize eq : Content.integer n = content at h
  cases readAs_iff.2 h with
  | numeral _ scanned numeral =>
    cases numeral with
    | integer isInteger =>
      rw [Numeral.text_of_isInteger isInteger]
      exact Numeral.isWhole_of_scan scanned isInteger
    | float => cases eq
  | name => grind [nameContent]
  | string | mark => cases eq

theorem isIntegerText_of_read {c : Char} {cs rest : List Char} {n : Nat} {lexeme : List Char}
    (h : read c cs = .ok (.token (.integer n) lexeme, rest)) : IsIntegerText n lexeme := by
  obtain ⟨eq, whole⟩ := isWhole_of_read h
  rw [read_run eq whole] at h
  split at h
  case isTrue => cases h
  case isFalse last =>
    split at h
    case isTrue => cases h
    case isFalse few =>
      cases h
      exact ⟨whole.run, last, Nat.not_lt.1 few, rfl⟩

end Piece

theorem isIntegerText_of_ofSource {file : String} {source : List Char} {x : Lexing}
    (h : Lexing.ofSource file source = .ok x) {t : Token} (mem : t ∈ x.tokens) {n : Nat}
    (integer : t.content = .integer n) : IsIntegerText n t.lexeme.toList := by
  obtain ⟨ps, hps, rfl⟩ := map_eq_ok.1 h
  have each := Lexing.forall_mem_tokens
    (P := fun content lexeme => ∀ n, content = .integer n → IsIntegerText n lexeme)
    (fun read n eq => Piece.isIntegerText_of_read (eq ▸ read)) hps (.start file)
  exact each t mem n integer

end ComponentMarkup
