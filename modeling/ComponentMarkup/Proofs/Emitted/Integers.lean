import ComponentMarkup.Construction.Render
import ComponentMarkup.Proofs.Emitted.Strings
import ComponentMarkup.Proofs.Lexing.Numerals

/-!
# Integers of emitted code

Emitted code writes integers in ASCII digits, with no more than one underscore between two of them
and without zeros in front. Markup is less strict about its own integers. As a value of its own an
integer is written anew and can be read; in a group it is copied, and can be read only if it is
spelled as emitted code asks for.

## Main definitions

* `Literal.integer?` — the value of a text that is an integer of emitted code.
* `IsPlainInteger` — the integers of markup that emitted code shares.

## Main statements

* `Literal.integer?_toDigits` — an integer that is written anew is read back.
* `Literal.integer?_eq_ite` — an integer of markup is one of emitted code if it is plain, and then
  both have the same value.
* `integer?_of_ofSource` — the integers of a source, in a group and as a value.
-/

namespace ComponentMarkup

namespace Text.Literal

/-- Digits, with no more than one underscore between two of them. -/
def isSeparated : List Char → Bool
  | [] => false
  | [c] => c.isDigit
  | c :: '_' :: cs => c.isDigit && isSeparated cs
  | c :: d :: cs => c.isDigit && isSeparated (d :: cs)

/-- The value of a text that is one integer and nothing else. Only zero starts with a zero. -/
def integer? (s : List Char) : Option Nat :=
  let digits := s.filter (· ≠ '_')
  if isSeparated s && (digits.head? ≠ some '0' || digits.all (· = '0')) then
    some (Nat.ofDigitChars 10 digits 0)
  else none

end Text.Literal

/-- An integer of markup that emitted code shares. -/
structure IsPlainInteger (s : List Char) : Prop where
  ascii : ∀ c ∈ s, c.isDigit = true ∨ c = '_'
  single : s.IsChain fun c d => c = '_' → d ≠ '_'
  leading : s.head? = some '0' → ∀ c ∈ s, c = '0' ∨ c = '_'

theorem isPlainInteger_iff (s : List Char) : IsPlainInteger s ↔
    (s.all fun c => c.isDigit || c = '_') = true ∧ s.IsChain (fun c d => c = '_' → d ≠ '_') ∧
      (s.head? = some '0' → (s.all fun c => c = '0' || c = '_') = true) := by
  simp only [List.all_eq_true, Bool.or_eq_true, decide_eq_true_eq]
  exact ⟨fun ⟨a, b, c⟩ => ⟨a, b, c⟩, fun ⟨a, b, c⟩ => ⟨a, b, c⟩⟩

instance (s : List Char) : Decidable (IsPlainInteger s) :=
  decidable_of_iff' _ (isPlainInteger_iff s)

/-! ## Digits -/

theorem range_of_isDigit {c : Char} (h : c.isDigit = true) :
    '0'.toNat ≤ c.toNat ∧ c.toNat < '0'.toNat + 10 := by
  simp only [Char.isDigit, Bool.and_eq_true, decide_eq_true_eq, UInt32.le_iff_toNat_le] at h
  exact ⟨h.1, Nat.lt_succ_of_le h.2⟩

theorem digitValue?_of_isDigit {c : Char} (h : c.isDigit = true) :
    Text.digitValue? c = some (c.toNat - '0'.toNat) := by
  have below : ¬ c.toNat < 0x30 := Nat.not_lt.2 (range_of_isDigit h).1
  have within : c.toNat < 0x30 + 10 := (range_of_isDigit h).2
  simp only [Text.digitValue?, Text.zeros, Text.digitIn, if_neg below, if_pos within]
  rfl

theorem isDecimal_of_isDigit {c : Char} (h : c.isDigit = true) : Text.isDecimal c = true := by
  simp [Text.isDecimal, digitValue?_of_isDigit h]

theorem isRun_of_isDigit {ds : List Char} (ne : ds ≠ []) (h : ∀ c ∈ ds, c.isDigit = true) :
    IsRun ds := by
  obtain ⟨c, cs, rfl⟩ := List.exists_cons_of_ne_nil ne
  obtain ⟨first, others⟩ := List.forall_mem_cons.1 h
  exact ⟨isDecimal_of_isDigit first, fun d hd => by
    simp [isRunPart, isDecimal_of_isDigit (others d hd)]⟩

theorem natural_digits_of_ascii {s : List Char} (h : ∀ c ∈ s, c.isDigit = true ∨ c = '_') :
    Numeral.natural (Numeral.digits s) = Nat.ofDigitChars 10 (s.filter (· ≠ '_')) 0 := by
  have underscore : Text.digitValue? '_' = none := by decide
  have go (n : Nat) : (Numeral.digits s).foldl (fun n d => 10 * n + d) n =
      Nat.ofDigitChars 10 (s.filter (· ≠ '_')) n := by
    induction s generalizing n with
    | nil => rfl
    | cons c s ih =>
      obtain ⟨first, more⟩ := List.forall_mem_cons.1 h
      rcases first with digit | rfl
      · have ne : c ≠ '_' := by
          rintro rfl
          cases digit
        simpa [Numeral.digits, digitValue?_of_isDigit digit, ne, Nat.ofDigitChars_cons]
          using ih more _
      · simpa [Numeral.digits, underscore] using ih more n
  exact go 0

theorem natural_digits_of_isDigit {ds : List Char} (h : ∀ c ∈ ds, c.isDigit = true) :
    Numeral.natural (Numeral.digits ds) = Nat.ofDigitChars 10 ds 0 := by
  have kept : ds.filter (· ≠ '_') = ds := by
    refine List.filter_eq_self.2 fun c hc => decide_eq_true ?_
    rintro rfl
    cases h _ hc
  rw [natural_digits_of_ascii fun c hc => .inl (h c hc), kept]

theorem isDigit_toDigits (n : Nat) : ∀ c ∈ Nat.toDigits 10 n, c.isDigit = true := fun _ hc =>
  Nat.isDigit_of_mem_toDigits (by decide) (by decide) hc

/-! ## Reading integers -/

namespace Text.Literal

theorem isSeparated_iff {s : List Char} :
    isSeparated s = true ↔ s ≠ [] ∧ (∀ c ∈ s, c.isDigit = true ∨ c = '_') ∧
      s.IsChain (fun c d => c = '_' → d ≠ '_') ∧ s.head? ≠ some '_' ∧ s.getLast? ≠ some '_' := by
  have noDigit {c : Char} (h : c.isDigit = true) : c ≠ '_' := by
    rintro rfl
    cases h
  fun_induction isSeparated s with
  | case1 => simp
  | case2 c => grind
  | case3 c cs ih =>
    simp only [Bool.and_eq_true, ih]
    cases cs <;> grind
  | case4 c d cs ne ih =>
    have ne : d ≠ '_' := by simpa using ne
    simp only [Bool.and_eq_true, ih]
    grind

/-- An integer of markup starts with a digit and does not end with an underscore. -/
theorem integer?_eq_ite {s : List Char} (run : IsRun s) (last : s.getLast? ≠ some '_') :
    integer? s = if IsPlainInteger s then some (Numeral.natural (Numeral.digits s)) else none := by
  obtain ⟨c, cs, rfl⟩ := List.exists_cons_of_ne_nil (show s ≠ [] by rintro rfl; exact run)
  have first : c ≠ '_' := by
    rintro rfl
    exact absurd run.1 (by decide)
  have leading : (((c :: cs).filter (· ≠ '_')).head? ≠ some '0' ||
      ((c :: cs).filter (· ≠ '_')).all (· = '0')) = true ↔
        ((c :: cs).head? = some '0' → ∀ d ∈ c :: cs, d = '0' ∨ d = '_') := by
    by_cases zero : c = '0'
    · simp [zero, or_comm]
    · simp [first, zero]
  by_cases separated : isSeparated (c :: cs) = true
  · obtain ⟨-, ascii, single, -⟩ := isSeparated_iff.1 separated
    have plain : IsPlainInteger (c :: cs) ↔ _ :=
      ⟨fun h => h.leading, fun leading => ⟨ascii, single, leading⟩⟩
    simp only [integer?, separated, Bool.true_and, leading, ← plain, natural_digits_of_ascii ascii]
  · have notPlain : ¬ IsPlainInteger (c :: cs) := fun h =>
      separated (isSeparated_iff.2 ⟨by simp, h.ascii, h.single, by simpa using first, last⟩)
    simp [integer?, separated, notPlain]

/-! ## Writing integers -/

/-- Only zero is written with a zero in front. -/
theorem head?_toDigits {n : Nat} (h : (Nat.toDigits 10 n).head? = some '0') : n = 0 := by
  induction n using Nat.strong_induction_on with
  | _ n ih =>
    rw [Nat.toDigits_eq_if (by decide)] at h
    split at h
    case isTrue => simpa using h
    case isFalse large =>
      rw [List.head?_append_of_ne_nil _ Nat.toDigits_ne_nil] at h
      have := ih (n / 10) (by omega) h
      omega

theorem integer?_toDigits (n : Nat) : integer? (Nat.toDigits 10 n) = some n := by
  have digits := isDigit_toDigits n
  have noUnderscore : ∀ c ∈ Nat.toDigits 10 n, c ≠ '_' := by
    rintro _ hc rfl
    cases digits _ hc
  have run := isRun_of_isDigit Nat.toDigits_ne_nil digits
  have last : (Nat.toDigits 10 n).getLast? ≠ some '_' := fun last =>
    noUnderscore _ (List.mem_of_getLast? last) rfl
  have plain : IsPlainInteger (Nat.toDigits 10 n) := by
    refine ⟨fun c hc => .inl (digits c hc), ?_, fun zero => ?_⟩
    · refine List.Pairwise.isChain (List.pairwise_of_forall_mem_list fun c hc d _ eq => ?_)
      exact absurd eq (noUnderscore c hc)
    · simp [head?_toDigits zero]
  rw [integer?_eq_ite run last, if_pos plain, natural_digits_of_isDigit digits,
    Nat.ofDigitChars_ten_toDigits]

end Text.Literal

/-! ## Integers of a source -/

open Text.Literal

/-- An integer that stands for a value is written anew, and has its value again. In a group it is
copied, and has its value if it is spelled as emitted code asks for; otherwise it is no integer
there. -/
theorem integer?_of_ofSource {file : String} {source : List Char} {x : Lexing}
    (h : Lexing.ofSource file source = .ok x) {t : Token} (mem : t ∈ x.tokens) {n : Nat}
    (integer : t.content = .integer n) :
    (∀ before behind, ∃ gap ∈ ["", " "], ∃ rest,
      renderTokens (before ++ t :: behind) = renderTokens before ++ gap ++ t.lexeme ++ rest) ∧
    integer? t.lexeme.toList = (if IsPlainInteger t.lexeme.toList then some n else none) ∧
    ∀ s : TokenStream, s.ahead = [t] → ∃ value s',
      Parser.expression.run s = .ok (.literal value t.span) s' ∧ s'.ahead = [] ∧
      integer? (Expression.literal value t.span).render.toList = some n := by
  have text := isIntegerText_of_ofSource h mem integer
  refine ⟨fun before behind => ?_, ?_, fun s single => ?_⟩
  · have noColon : t.isMark .colon = false := by simp [Token.isMark, integer]
    obtain ⟨gap, isGap, eq⟩ := renderTokens_append_cons before behind noColon
    have render : t.render = t.lexeme := by simp [Token.render, integer]
    rw [render] at eq
    exact ⟨gap, isGap, _, eq⟩
  · rw [integer?_eq_ite text.run text.last, ← text.value]
  · have read : Grammar.IsExpression s.ahead (.literal (.integer n) t.span) := by
      rw [single]
      exact .literal (by simp [integer, Content.literal?])
    obtain ⟨s', run, empty⟩ := Parser.expression_whole_iff.2 read
    refine ⟨_, s', run, empty, ?_⟩
    change integer? n.repr.toList = some n
    rw [Nat.toList_repr]
    exact integer?_toDigits n

/-- A single underscore between two digits does no harm. -/
theorem integer?_of_ofSource_separated :
    ∃ x t, Lexing.ofSource "m" "2 u 1_000".toList = .ok x ∧ t ∈ x.tokens ∧
      t.content = .integer 1000 ∧ t.lexeme = "1_000" ∧
      integer? t.lexeme.toList = some 1000 ∧ ∃ value s', Parser.expression.run
          ⟨[t], ⟨"m", 1, 10, 9⟩, [], []⟩ = .ok (.literal value t.span) s' ∧ s'.ahead = [] ∧
        integer? (Expression.literal value t.span).render.toList = some 1000 := by
  have cut : Lexing.ofSource "m" "2 u 1_000".toList = .ok {
      tokens := [⟨.integer 2, "2", ⟨"m", 1, 1, 0⟩⟩, ⟨.identifier, "u", ⟨"m", 1, 3, 2⟩⟩,
        ⟨.integer 1000, "1_000", ⟨"m", 1, 5, 4⟩⟩]
      errors := []
      stop := ⟨"m", 1, 10, 9⟩ } := by decide +kernel
  obtain ⟨-, copied, written⟩ := integer?_of_ofSource cut
    (List.mem_cons_of_mem _ (List.mem_cons_of_mem _ List.mem_cons_self)) rfl
  refine ⟨_, _, cut, List.mem_cons_of_mem _ (List.mem_cons_of_mem _ List.mem_cons_self), rfl, rfl,
    copied.trans (if_pos (by decide)), written _ rfl⟩

/-- With a zero in front an integer is copied too, and then it is none. -/
theorem integer?_copied_eq_none :
    lex "m" "007" = .ok {
        tokens := [⟨.integer 7, "007", .start "m"⟩]
        errors := []
        stop := ⟨"m", 1, 4, 3⟩ } ∧
      renderTokens [⟨.integer 7, "007", .start "m"⟩] = "007" ∧ integer? "007".toList = none := by
  decide +kernel

/-- Nor is one with two underscores in a row, or with a digit of another script. -/
example : ∀ p ∈ [("1__0", 10), ("٣", 3)],
    (lex "m" p.1).map Lexing.tokens = .ok [⟨.integer p.2, p.1, .start "m"⟩] ∧
      integer? p.1.toList = none := by
  decide +kernel

end ComponentMarkup
