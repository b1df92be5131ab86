import ComponentMarkup.Proofs.Emitted.Integers
import ComponentMarkup.Proofs.Lexing.Integers
import ComponentMarkup.Proofs.Lexing.Names
import ComponentMarkup.Proofs.Parsing.Relaid

/-!
# Decimal texts of integers

An integer has one decimal text: ASCII digits, no zero in front of others, and a minus only in front
of a negative one. A literal is written as that text, however it was spelled, and the text is read
as a literal of the same integer again.

## Main definitions

* `positionalValue` — the number that the digits of a text stand for by their places.
* `IsDecimalText` — the decimal text of an integer.
* `ReadsAsInteger` — a text that is read as a literal of an integer.
* `Expression.IsRereadAs` — a literal of an integer that is written as its decimal text and read
  again.

## Main statements

* `isDecimalText_iff` — integers are written as their decimal texts.
* `readsAsInteger_of_isIntegerText` — every spelling of an integer is read, with a minus or without.
* `isReread_of_integers` — all integers are reread.
-/

namespace ComponentMarkup

open Grammar

/-- Each digit counts ten times as much as it would one place further on. Characters that are no
digits take no place. -/
def positionalValue : List Char → Nat
  | [] => 0
  | c :: cs =>
    (Text.digitValue? c).getD 0 * 10 ^ cs.countP Text.isDecimal + positionalValue cs

/-- ASCII digits. A zero in front is the only one. -/
structure IsShortest (ds : List Char) : Prop where
  ne_nil : ds ≠ []
  isDigit : ∀ c ∈ ds, c.isDigit = true
  leading : ds.head? = some '0' → ds = ['0']

/-- Zero has no minus. -/
inductive IsDecimalText : List Char → Int → Prop where
  | natural {ds : List Char} : IsShortest ds → IsDecimalText ds (positionalValue ds)
  | negative {ds : List Char} :
      IsShortest ds → positionalValue ds ≠ 0 → IsDecimalText ('-' :: ds) (-positionalValue ds)

/-- The text is lexed without error, and read whole as a literal of the integer `n`. -/
def ReadsAsInteger (text : String) (n : Int) : Prop :=
  ∀ file, ∃ x span s, lex file text = .ok x ∧
    Parser.expression.run (.ofLexing x) = .ok (.literal (.integer n) span) s ∧ s.ahead = []

/-- A literal of the integer `n` that is written as the decimal text of `n`, which is read as such a
literal again. -/
structure Expression.IsRereadAs (e : Expression) (n : Int) : Prop where
  isLiteral : ∃ span, e = .literal (.integer n) span
  isDecimalText : IsDecimalText e.render.toList n
  reads : ReadsAsInteger e.render n

/-! ## Positional values -/

theorem foldl_digits (s : List Char) (n : Nat) :
    (Numeral.digits s).foldl (fun n d => 10 * n + d) n =
      n * 10 ^ s.countP Text.isDecimal + positionalValue s := by
  induction s generalizing n with
  | nil => simp [Numeral.digits, positionalValue]
  | cons c s ih =>
    cases digit : Text.digitValue? c with
    | none =>
      have other : Text.isDecimal c = false := by simp [Text.isDecimal, digit]
      have same : Numeral.digits (c :: s) = Numeral.digits s := by simp [Numeral.digits, digit]
      rw [same, ih]
      simp [positionalValue, digit, other]
    | some d =>
      have decimal : Text.isDecimal c = true := by simp [Text.isDecimal, digit]
      have first : Numeral.digits (c :: s) = d :: Numeral.digits s := by
        simp [Numeral.digits, digit]
      rw [first, List.foldl_cons, ih, positionalValue, digit, Option.getD_some,
        List.countP_cons_of_pos decimal, Nat.pow_succ]
      grind

theorem natural_digits (s : List Char) :
    Numeral.natural (Numeral.digits s) = positionalValue s := by
  rw [Numeral.natural, foldl_digits, Nat.zero_mul, Nat.zero_add]

theorem positionalValue_lt {s : List Char} (few : s.countP Text.isDecimal ≤ maxDigits) :
    positionalValue s < 10 ^ maxDigits := by
  calc positionalValue s
      = Numeral.natural (Numeral.digits s) := (natural_digits s).symm
    _ < 10 ^ (Numeral.digits s).length := Numeral.natural_lt Numeral.digit_lt
    _ ≤ 10 ^ maxDigits :=
      Nat.pow_le_pow_right (by decide) ((Numeral.length_digits s).trans_le few)

theorem positionalValue_of_isDigit {ds : List Char} (h : ∀ c ∈ ds, c.isDigit = true) :
    positionalValue ds = Nat.ofDigitChars 10 ds 0 :=
  (natural_digits ds).symm.trans (natural_digits_of_isDigit h)

/-! ## Decimal texts -/

theorem toDigits_of_isDigit {c : Char} (h : c.isDigit = true) :
    Nat.toDigits 10 (c.toNat - '0'.toNat) = [c] := by
  have range := range_of_isDigit h
  have small : c.toNat - '0'.toNat < 10 := by omega
  rw [Nat.toDigits_of_lt_base small]
  congr 1
  apply Char.toNat_inj.1
  rw [Nat.toNat_digitChar_of_lt_ten small]
  have zero : '0'.toNat = 48 := rfl
  omega

/-- Digits behind those of a number that is not zero. -/
theorem toDigits_ofDigitChars_of_pos {ds : List Char} (h : ∀ c ∈ ds, c.isDigit = true) {n : Nat}
    (pos : 0 < n) : Nat.toDigits 10 (Nat.ofDigitChars 10 ds n) = Nat.toDigits 10 n ++ ds := by
  induction ds generalizing n with
  | nil => simp [Nat.ofDigitChars_nil]
  | cons c ds ih =>
    obtain ⟨first, others⟩ := List.forall_mem_cons.1 h
    have range := range_of_isDigit first
    have digit : c.toNat - '0'.toNat < 10 := by omega
    calc Nat.toDigits 10 (Nat.ofDigitChars 10 (c :: ds) n)
        = Nat.toDigits 10 (10 * n + (c.toNat - '0'.toNat)) ++ ds := by
          rw [Nat.ofDigitChars_cons, ih others (by omega)]
      _ = Nat.toDigits 10 n ++ [c] ++ ds := by
          rw [← Nat.toDigits_append_toDigits (by decide) pos digit, toDigits_of_isDigit first]
      _ = Nat.toDigits 10 n ++ c :: ds := by simp

namespace IsShortest

variable {ds : List Char}

/-- The digits of a number are its only shortest ones. -/
theorem eq_toDigits (h : IsShortest ds) : ds = Nat.toDigits 10 (positionalValue ds) := by
  rw [positionalValue_of_isDigit h.isDigit]
  by_cases zero : ds = ['0']
  · subst zero
    decide
  obtain ⟨c, cs, rfl⟩ := List.exists_cons_of_ne_nil h.ne_nil
  obtain ⟨first, others⟩ := List.forall_mem_cons.1 h.isDigit
  have range := range_of_isDigit first
  have nonzero : c.toNat ≠ '0'.toNat := fun eq => by
    cases Char.toNat_inj.1 eq
    exact zero (h.leading rfl)
  have pos : 0 < c.toNat - '0'.toNat := by omega
  rw [Nat.ofDigitChars_cons, Nat.mul_zero, Nat.zero_add, toDigits_ofDigitChars_of_pos others pos,
    toDigits_of_isDigit first]
  rfl

end IsShortest

theorem isShortest_toDigits (n : Nat) : IsShortest (Nat.toDigits 10 n) where
  ne_nil := Nat.toDigits_ne_nil
  isDigit := isDigit_toDigits n
  leading zero := by
    rw [Text.Literal.head?_toDigits zero]
    rfl

theorem positionalValue_toDigits (n : Nat) : positionalValue (Nat.toDigits 10 n) = n := by
  rw [positionalValue_of_isDigit (isDigit_toDigits n), Nat.ofDigitChars_ten_toDigits]

theorem toList_toString_natCast (n : Nat) : (toString (n : Int)).toList = Nat.toDigits 10 n :=
  Nat.toList_repr

theorem toList_toString_neg {n : Nat} (h : n ≠ 0) :
    (toString (-(n : Int))).toList = '-' :: Nat.toDigits 10 n := by
  obtain ⟨m, rfl⟩ := Nat.exists_eq_add_one_of_ne_zero h
  have minus : toString (-((m + 1 : Nat) : Int)) = "-" ++ (m + 1).repr := rfl
  rw [minus, String.toList_append, Nat.toList_repr]
  rfl

theorem isDecimalText_toString (n : Int) : IsDecimalText (toString n).toList n := by
  obtain ⟨m, rfl | rfl⟩ := n.eq_nat_or_neg
  · have text := IsDecimalText.natural (isShortest_toDigits m)
    rwa [positionalValue_toDigits, ← toList_toString_natCast] at text
  · by_cases zero : m = 0
    · subst zero
      exact .natural (isShortest_toDigits 0)
    · have text := IsDecimalText.negative (isShortest_toDigits m)
        (by rwa [positionalValue_toDigits])
      rwa [positionalValue_toDigits, ← toList_toString_neg zero] at text

theorem isDecimalText_iff {s : List Char} {n : Int} :
    IsDecimalText s n ↔ s = (toString n).toList := by
  constructor
  · intro h
    cases h with
    | natural shortest => rw [toList_toString_natCast, ← shortest.eq_toDigits]
    | negative shortest nonzero => rw [toList_toString_neg nonzero, ← shortest.eq_toDigits]
  · rintro rfl
    exact isDecimalText_toString n

theorem existsUnique_isDecimalText (n : Int) : ∃! s, IsDecimalText s n :=
  ⟨_, isDecimalText_toString n, fun _ => isDecimalText_iff.1⟩

/-! ## Reading -/

theorem IsIntegerText.value_eq {n : Nat} {s : List Char} (h : IsIntegerText n s) :
    n = positionalValue s :=
  h.value.trans (natural_digits s)

namespace Yields

/-- A run that is read as an integer is so at the end of a text. -/
theorem integer {n : Nat} {t : Token} (text : IsIntegerText n t.lexeme.toList)
    (content : t.content = .integer n) : Yields t.lexeme.toList [t] := by
  have whole : IsWhole t.lexeme.toList [] := ⟨text.run, nofun, rfl, rfl⟩
  obtain ⟨c, cs, eq⟩ := List.exists_cons_of_ne_nil
    (show t.lexeme.toList ≠ [] from fun empty => by simpa [empty, IsRun] using text.run)
  have read := Piece.read_run (eq.symm.trans (List.append_nil _).symm) whole
  rw [if_neg text.last, if_neg (Nat.not_lt.2 text.few), ← text.value] at read
  rw [eq]
  exact (token_iff read).2 ⟨by simp [Token.spelled, content], .nil⟩

end Yields

/-- The tokens of a text are read in the same way wherever they stand. -/
theorem readsAsInteger_of_yields {text : String} {ts : List Token} {n : Int}
    (yields : Yields text.toList ts)
    (isLiteral : ∀ us, Relaid ts us → ∃ span, IsExpression us (.literal (.integer n) span)) :
    ReadsAsInteger text n := by
  intro file
  obtain ⟨x, lexed, same⟩ := yields.exists_lex file
  obtain ⟨span, isExpression⟩ := isLiteral x.tokens same
  obtain ⟨s, run, whole⟩ := Parser.expression_whole_iff (s := .ofLexing x).2 isExpression
  exact ⟨x, span, s, lexed, run, whole⟩

theorem Token.literal?_of_integer {t : Token} {n : Nat} (h : t.content = .integer n) :
    t.content.literal? = some (.integer n) := by
  rw [h]
  rfl

theorem Token.isNegated_of_integer {t : Token} {n : Nat} (h : t.content = .integer n) :
    IsNegated t.content (.integer (-n)) := by
  rw [h]
  exact .integer n

/-- Every spelling of an integer is read, and as the negated one with a minus in front. -/
theorem readsAsInteger_of_isIntegerText {n : Nat} {text : String}
    (h : IsIntegerText n text.toList) :
    ReadsAsInteger text n ∧ ReadsAsInteger ("-" ++ text) (-n) := by
  have number := Yields.integer (t := ⟨.integer n, text, .start ""⟩) h rfl
  constructor
  · refine readsAsInteger_of_yields number fun us same => ?_
    obtain ⟨t, _, rfl, isNumber, ⟨⟩⟩ := same.cons_inv
    exact ⟨_, .literal (Token.literal?_of_integer isNumber.content)⟩
  · have negative : Yields ("-" ++ text).toList
        [⟨.mark .minus, "-", .start ""⟩, ⟨.integer n, text, .start ""⟩] := by
      rw [String.toList_append]
      exact .mark (t := ⟨.mark .minus, "-", .start ""⟩) (m := .minus) rfl rfl nofun number
    refine readsAsInteger_of_yields negative fun us same => ?_
    obtain ⟨minus, _, rfl, isMinus, same⟩ := same.cons_inv
    obtain ⟨t, _, rfl, isNumber, ⟨⟩⟩ := same.cons_inv
    exact ⟨_, .negative (isMinus.isMark .minus) (Token.isNegated_of_integer isNumber.content)⟩

/-- ASCII digits are a spelling of the integer. -/
theorem IsShortest.isIntegerText {ds : List Char} (h : IsShortest ds)
    (few : ds.countP Char.isDigit ≤ maxDigits) : IsIntegerText (positionalValue ds) ds where
  run := isRun_of_isDigit h.ne_nil h.isDigit
  last last := by cases h.isDigit _ (List.mem_of_getLast? last)
  few := by
    refine Nat.le_trans (Nat.le_of_eq ?_) few
    exact List.countP_congr fun c hc => by simp [h.isDigit c hc, isDecimal_of_isDigit]
  value := (natural_digits ds).symm

/-- The decimal text of an integer is read as that integer if it does not have too many digits. -/
theorem IsDecimalText.readsAsInteger {text : String} {n : Int} (h : IsDecimalText text.toList n)
    (few : text.toList.countP Char.isDigit ≤ maxDigits) : ReadsAsInteger text n := by
  generalize eq : text.toList = s at h few
  cases h with
  | natural shortest =>
    subst eq
    exact (readsAsInteger_of_isIntegerText (shortest.isIntegerText few)).1
  | @negative ds shortest _ =>
    have split : text = "-" ++ .ofList ds := String.toList_inj.1 (by simp [eq])
    have digits : IsIntegerText (positionalValue ds) (String.ofList ds).toList := by
      rw [String.toList_ofList]
      exact shortest.isIntegerText (by simpa [Char.isDigit] using few)
    rw [split]
    exact (readsAsInteger_of_isIntegerText digits).2

/-! ## Reading again -/

theorem countP_isDigit_toDigits {n : Nat} (h : n < 10 ^ maxDigits) :
    (Nat.toDigits 10 n).countP Char.isDigit ≤ maxDigits :=
  List.countP_le_length.trans ((Nat.length_toDigits_le_iff (by decide) (by decide)).2 h)

/-- A decimal text has as many digits as the integer. -/
theorem countP_isDigit_toString {n : Int} (h : n.natAbs < 10 ^ maxDigits) :
    (toString n).toList.countP Char.isDigit ≤ maxDigits := by
  obtain ⟨m, rfl | rfl⟩ := n.eq_nat_or_neg
  · rw [toList_toString_natCast]
    exact countP_isDigit_toDigits h
  · by_cases zero : m = 0
    · subst zero
      decide
    · rw [toList_toString_neg zero, List.countP_cons_of_neg (by decide)]
      exact countP_isDigit_toDigits (by simpa using h)

theorem isRereadAs_literal {n : Int} (h : n.natAbs < 10 ^ maxDigits) (span : Source.Span) :
    (Expression.literal (.integer n) span).IsRereadAs n where
  isLiteral := ⟨span, rfl⟩
  isDecimalText := isDecimalText_toString n
  reads := (isDecimalText_toString n).readsAsInteger (countP_isDigit_toString h)

/-- Each integer has one decimal text. If that does not have too many digits, it is read whole as a
literal of the integer, and such literals are written as that text. Where an integer is read from a
source, alone or behind a minus, it is the positional value of its spelling, and the literal is
written as the decimal text of the integer and read as the same integer again. -/
theorem isReread_of_integers :
    (∀ n : Int, ∃! s, IsDecimalText s n) ∧
    (∀ (n : Int) (text : String), IsDecimalText text.toList n →
      text.toList.countP Char.isDigit ≤ maxDigits →
        ReadsAsInteger text n ∧ ∀ span, (Expression.literal (.integer n) span).render = text) ∧
    ∀ (file : String) (source : List Char) (x : Lexing), Lexing.ofSource file source = .ok x →
      ∀ t ∈ x.tokens, t.kind = .integer → ∀ s : TokenStream,
        (∃ e, Parser.expression.run (s.before [t]) = .ok e s ∧
          e.IsRereadAs (positionalValue t.lexeme.toList)) ∧
        ∀ minus : Token, minus.isMark .minus = true →
          ∃ e, Parser.expression.run (s.before [minus, t]) = .ok e s ∧
            e.IsRereadAs (-positionalValue t.lexeme.toList) := by
  refine ⟨existsUnique_isDecimalText, fun n text isText few => ⟨isText.readsAsInteger few, ?_⟩, ?_⟩
  · intro span
    exact String.toList_inj.1 (isDecimalText_iff.1 isText).symm
  · intro file source x lexed t mem integer s
    obtain ⟨n, content⟩ := Token.kind_eq_integer_iff.1 integer
    have text := isIntegerText_of_ofSource lexed mem content
    have small := positionalValue_lt text.few
    rw [text.value_eq] at content
    refine ⟨⟨_, Parser.expression_complete_literal (Token.literal?_of_integer content), ?_⟩, ?_⟩
    · exact isRereadAs_literal (by rwa [Int.natAbs_natCast]) _
    · intro minus isMinus
      refine ⟨_, Parser.expression_complete_negative isMinus (Token.isNegated_of_integer content), ?_⟩
      exact isRereadAs_literal (by rwa [Int.natAbs_neg, Int.natAbs_natCast]) _

/-- A minus with a gap behind it, and an integer with a zero in front, an underscore and a digit of
another script. -/
theorem isReread_of_integers_spelled :
    ∃ x minus t, Lexing.ofSource "m" "$- 0_1٣".toList = .ok x ∧ x.tokens = [minus, t] ∧
      minus.isMark .minus = true ∧ t.kind = .integer ∧ t.lexeme = "0_1٣" ∧
      (∃ e, Parser.expression.run (.ofLexing x) = .ok e ⟨[], x.stop, [], []⟩ ∧ e.IsRereadAs (-13)) ∧
      IsDecimalText "-13".toList (-13) ∧ "-13".toList.countP Char.isDigit ≤ maxDigits ∧
      ReadsAsInteger "-13" (-13) := by
  have cut : Lexing.ofSource "m" "$- 0_1٣".toList = .ok {
      tokens := [⟨.mark .minus, "-", ⟨"m", 1, 2, 1⟩⟩, ⟨.integer 13, "0_1٣", ⟨"m", 1, 4, 3⟩⟩]
      errors := [⟨.invalidCharacter '$', .start "m"⟩]
      stop := ⟨"m", 1, 8, 7⟩ } := by decide +kernel
  have decimal : IsDecimalText "-13".toList (-13) := isDecimalText_iff.2 (by decide +kernel)
  obtain ⟨-, texts, tokens⟩ := isReread_of_integers
  obtain ⟨-, negative⟩ := tokens _ _ _ cut _ (List.mem_cons_of_mem _ List.mem_cons_self) rfl
    ⟨[], ⟨"m", 1, 8, 7⟩, [], []⟩
  obtain ⟨e, run, reread⟩ := negative ⟨.mark .minus, "-", ⟨"m", 1, 2, 1⟩⟩ rfl
  have value : positionalValue "0_1٣".toList = 13 := by decide +kernel
  rw [value] at reread
  exact ⟨_, _, _, cut, rfl, rfl, rfl, rfl, ⟨e, run, reread⟩, decimal, by decide,
    (texts (-13) "-13" decimal (by decide)).1⟩

end ComponentMarkup
