import ComponentMarkup.Proofs.Lexing.Tiling

/-!
# Numerals that end with an underscore

Every run of digits in a numeral may have underscores behind its first digit, so the last one may
end with one. An integer that does is a bad number. A numeral with a fraction or an exponent is only
asked for its value, and is a token if that is in range.

## Main definitions

* `endsInDigit` — texts with a decimal digit at their end.
* `Numeral.IsMet` — the numerals that reading a source comes to.
* `Lexing.Accepts`, `Lexing.Reports` — a numeral is a token, or a bad number.
* `Lexing.RejectsUnderscores` — no number ends with an underscore.

## Main statements

* `Numeral.endsInDigit_or_of_scan` — a numeral ends with a digit or with an underscore.
* `Lexing.exists_isMet_of_mem` — the numbers of a source are numerals that reading comes to.
* `Lexing.rejectsUnderscores_iff` — the numerals with an underscore at their end that are tokens.
-/

namespace ComponentMarkup

open Source (Location)

def endsInDigit (s : List Char) : Bool := s.getLast?.any Text.isDecimal

/-- Reading the source comes to the numeral behind `before`. -/
def Numeral.IsMet (source before : List Char) (n : Numeral) : Prop :=
  ∃ behind rest, Reaches source before behind ∧ scan behind = some (n, rest)

namespace Lexing

/-- The text at `l` is a number with a fraction or an exponent. -/
def Accepts (x : Lexing) (l : Location) (s : List Char) : Prop :=
  ∃ t ∈ x.tokens, t.kind = .float ∧ t.start = l ∧ t.lexeme.toList = s

/-- The text at `l` is reported as a bad number. -/
def Reports (x : Lexing) (l : Location) (s : List Char) : Prop :=
  ∃ e ∈ x.errors, e.location = l ∧ e.diagnostic.code = some "L003" ∧
    e.diagnostic.message = s!"Invalid numeric literal: '{String.ofList s}'"

/-- Each number ends with a digit, and each numeral that ends with an underscore is reported. -/
structure RejectsUnderscores (file : String) (source : List Char) (x : Lexing) : Prop where
  endsInDigit : ∀ t ∈ x.tokens, t.kind = .integer ∨ t.kind = .float →
    ComponentMarkup.endsInDigit t.lexeme.toList = true
  reports : ∀ before n, Numeral.IsMet source before n → n.text.getLast? = some '_' →
    x.Reports ((Location.start file).after before) n.text

end Lexing

/-! ## Numerals -/

/-- The last part of a number is a run of digits. -/
theorem TokenKind.HasText.exists_run {kind : TokenKind} {s behind : List Char}
    (h : HasText kind s behind) (number : kind.lexClass = .number) :
    ∃ front run, s = front ++ run ∧ IsRun run := by
  cases h with
  | word =>
    rw [lexClass_nameContent] at number
    cases number
  | string | mark => cases number
  | integer run => exact ⟨[], _, rfl, run⟩
  | @fraction run more _ _ last => exact ⟨run ++ ['.'], more, by simp, last⟩
  | @scientific run more _ _ _ _ exponent =>
    cases exponent with
    | @mk letter sign digits _ _ last =>
      exact ⟨run ++ '.' :: (more ++ letter :: sign), digits, by simp, last⟩
  | @exponent run _ _ _ exponent =>
    cases exponent with
    | @mk letter sign digits _ _ last =>
      exact ⟨run ++ letter :: sign, digits, by simp, last⟩

theorem IsRun.endsInDigit_or {run : List Char} (h : IsRun run) :
    endsInDigit run = true ∨ run.getLast? = some '_' := by
  cases last : run.getLast? with
  | none =>
    rw [List.getLast?_eq_none_iff.1 last] at h
    exact h.elim
  | some c =>
    have part := h.isRunPart_of_mem c (List.mem_of_getLast? last)
    simpa [endsInDigit, last, isRunPart] using part

namespace Numeral

theorem endsInDigit_or_of_scan {s rest : List Char} {n : Numeral} (h : scan s = some (n, rest)) :
    endsInDigit n.text = true ∨ n.text.getLast? = some '_' := by
  have number : (if n.isInteger then TokenKind.integer else .float).lexClass = .number := by
    split <;> rfl
  obtain ⟨front, run, eq, isRun⟩ := (hasText_of_scan h rest).exists_run number
  have ne : run ≠ [] := by
    rintro rfl
    exact isRun
  have last : n.text.getLast? = run.getLast? := by rw [eq, List.getLast?_append_of_ne_nil _ ne]
  have ends := isRun.endsInDigit_or
  rwa [endsInDigit, ← last] at ends

end Numeral

namespace Piece

/-- A number is a numeral. -/
theorem exists_scan_of_read {c : Char} {cs rest : List Char} {content : Content}
    {lexeme : List Char} (h : read c cs = .ok (.token content lexeme, rest))
    (number : content.kind = .integer ∨ content.kind = .float) :
    ∃ n, Numeral.scan (c :: cs) = some (n, rest) ∧ lexeme = n.text := by
  have decimal := (isDecimal_iff_of_read h).2 number
  cases readAs_iff.2 h with
  | @numeral n _ _ _ scanned numeral =>
    obtain ⟨rfl, rfl, -⟩ := numeral.token
    exact ⟨n, scanned, rfl⟩
  | name _ noDecimal =>
    rw [noDecimal] at decimal
    cases decimal
  | string => simp [Content.kind] at number
  | mark => simp [Content.kind] at number

/-- An integer is bad because of the underscore at its end, and any other numeral because it is out
of range. -/
theorem exists_fault_of_underscore {n : Numeral} (last : n.text.getLast? = some '_')
    (bad : n.isInteger = true ∨ n.real? = none) (rest : List Char) :
    ∃ fault, fault.literal? = some n.text ∧
      NumeralAs n rest (.ok (.fault fault (n.text ++ rest.take 1), rest.drop 1)) := by
  cases isInteger : n.isInteger with
  | true =>
    rw [Numeral.text_of_isInteger isInteger] at last
    exact ⟨.trailingUnderscore n.text, rfl, .trailingUnderscore isInteger last⟩
  | false =>
    have outOfRange : n.real? = none := bad.resolve_left (by simp [isInteger])
    exact ⟨.outOfRange n.text, rfl, .outOfRange isInteger outOfRange⟩

end Piece

/-! ## Numerals of a source -/

theorem Numeral.IsMet.exists_readsAt {source before : List Char} {n : Numeral}
    (met : IsMet source before n) (file : String) :
    ∃ rest, ∀ p rest', Piece.NumeralAs n rest (.ok (p, rest')) →
      ReadsAt (.start file) source p ((Location.start file).after before) := by
  obtain ⟨behind, rest, reaches, scanned⟩ := met
  cases behind with
  | nil => cases scanned
  | cons c cs =>
    exact ⟨rest, fun p rest' numeral =>
      ⟨before, c, cs, rest', reaches, Piece.read_of_scan scanned numeral, rfl⟩⟩

namespace Lexing

variable {file : String} {source before : List Char} {x : Lexing} {n : Numeral} {l : Location}

theorem mem_tokens_iff_readsAt (h : ofSource file source = .ok x) (t : Token) :
    t ∈ x.tokens ↔
      ReadsAt (.start file) source (.token t.content t.lexeme.toList) t.start := by
  obtain ⟨ps, hps, rfl⟩ := map_eq_ok.1 h
  exact mem_tokens_iff hps _ t

theorem mem_errors_iff_readsAt (h : ofSource file source = .ok x) (e : LexError) :
    e ∈ x.errors ↔ ∃ text, ReadsAt (.start file) source (.fault e.fault text) e.location := by
  obtain ⟨ps, hps, rfl⟩ := map_eq_ok.1 h
  rw [mem_errors_iff hps, meets_iff]

/-- A number of a source is a numeral that reading it comes to. -/
theorem exists_isMet_of_mem (h : ofSource file source = .ok x) {t : Token} (mem : t ∈ x.tokens)
    (number : t.kind = .integer ∨ t.kind = .float) :
    ∃ before, ∃ n : Numeral, n.IsMet source before ∧ t.start = (Location.start file).after before ∧
      t.lexeme.toList = n.text := by
  obtain ⟨before, c, cs, rest, reaches, read, place⟩ := (mem_tokens_iff_readsAt h t).1 mem
  obtain ⟨n, scanned, text⟩ := Piece.exists_scan_of_read read number
  exact ⟨before, n, ⟨c :: cs, rest, reaches, scanned⟩, place, text⟩

theorem endsInDigit_or_of_mem (h : ofSource file source = .ok x) {t : Token} (mem : t ∈ x.tokens)
    (number : t.kind = .integer ∨ t.kind = .float) :
    endsInDigit t.lexeme.toList = true ∨
      t.kind = .float ∧ t.lexeme.toList.getLast? = some '_' := by
  obtain ⟨before, n, ⟨behind, rest, -, scanned⟩, -, text⟩ := exists_isMet_of_mem h mem number
  have ends := Numeral.endsInDigit_or_of_scan scanned
  rw [← text] at ends
  rcases number with integer | float
  · obtain ⟨m, content⟩ := Token.kind_eq_integer_iff.1 integer
    exact .inl (ends.resolve_right (isIntegerText_of_ofSource h mem content).last)
  · exact ends.imp_right fun last => ⟨float, last⟩

/-- A text is not both a token and a bad number. -/
theorem Accepts.not_reports (h : ofSource file source = .ok x) {s s' : List Char}
    (accepts : x.Accepts l s) : ¬ x.Reports l s' := by
  rintro ⟨e, he, place, -⟩
  obtain ⟨t, ht, -, start, -⟩ := accepts
  obtain ⟨text, fault⟩ := (mem_errors_iff_readsAt h e).1 he
  have token := (mem_tokens_iff_readsAt h t).1 ht
  rw [place] at fault
  rw [start] at token
  cases token.unique fault

theorem accepts_of_isMet (h : ofSource file source = .ok x) (met : n.IsMet source before)
    (fractional : n.isInteger = false) (inRange : n.real? ≠ none) :
    x.Accepts ((Location.start file).after before) n.text := by
  obtain ⟨value, isValue⟩ := Option.ne_none_iff_exists'.1 inRange
  obtain ⟨rest, reads⟩ := met.exists_readsAt file
  refine ⟨⟨.float value, .ofList n.text, (Location.start file).after before⟩, ?_, rfl, rfl,
    String.toList_ofList⟩
  rw [mem_tokens_iff_readsAt h, String.toList_ofList]
  exact reads _ _ (.float fractional isValue)

theorem reports_of_isMet (h : ofSource file source = .ok x) (met : n.IsMet source before)
    (last : n.text.getLast? = some '_') (bad : n.isInteger = true ∨ n.real? = none) :
    x.Reports ((Location.start file).after before) n.text := by
  obtain ⟨rest, reads⟩ := met.exists_readsAt file
  obtain ⟨fault, literal, numeral⟩ := Piece.exists_fault_of_underscore last bad rest
  have mem := (mem_errors_iff_readsAt h ⟨fault, (Location.start file).after before⟩).2
    ⟨_, reads _ _ numeral⟩
  exact ⟨_, mem, rfl, LexError.diagnostic_of_literal? literal⟩

/-- A numeral with an underscore at its end is reported, unless it has a fraction or an exponent and
is in range. -/
theorem reports_iff_of_isMet (h : ofSource file source = .ok x) (met : n.IsMet source before)
    (last : n.text.getLast? = some '_') :
    x.Reports ((Location.start file).after before) n.text ↔
      n.isInteger = true ∨ n.real? = none := by
  refine ⟨fun reports => ?_, reports_of_isMet h met last⟩
  by_contra good
  obtain ⟨fractional, inRange⟩ := not_or.1 good
  exact (accepts_of_isMet h met (by simpa using fractional) inRange).not_reports h reports

theorem accepts_iff_of_isMet (h : ofSource file source = .ok x) (met : n.IsMet source before)
    (last : n.text.getLast? = some '_') :
    x.Accepts ((Location.start file).after before) n.text ↔
      n.isInteger = false ∧ n.real? ≠ none := by
  refine ⟨fun accepts => ?_, fun ⟨fractional, inRange⟩ => accepts_of_isMet h met fractional inRange⟩
  have silent := mt (reports_iff_of_isMet h met last).2 (accepts.not_reports h)
  simpa using silent

/-- Only a numeral in range that has a fraction or an exponent, with an underscore at its end, is not
rejected. -/
theorem rejectsUnderscores_iff_of_isMet (h : ofSource file source = .ok x) :
    x.RejectsUnderscores file source ↔
      ∀ before n, Numeral.IsMet source before n → n.text.getLast? = some '_' →
        n.isInteger = true ∨ n.real? = none := by
  constructor
  · intro rejects before n met last
    exact (reports_iff_of_isMet h met last).1 (rejects.reports before n met last)
  · intro bad
    refine ⟨fun t mem number => ?_, fun before n met last =>
      reports_of_isMet h met last (bad before n met last)⟩
    refine (endsInDigit_or_of_mem h mem number).resolve_right fun ⟨float, last⟩ => ?_
    obtain ⟨before, n, met, place, text⟩ := exists_isMet_of_mem h mem number
    rw [text] at last
    have accepts : x.Accepts ((Location.start file).after before) n.text :=
      ⟨t, mem, float, place, text⟩
    exact accepts.not_reports h (reports_of_isMet h met last (bad before n met last))

/-- Only numbers with a fraction or an exponent end with an underscore, and each numeral of that kind
is a number if it is in range. All other numerals with an underscore at their end are reported. -/
theorem rejectsUnderscores_iff (h : ofSource file source = .ok x) :
    (∀ t ∈ x.tokens, t.kind = .integer ∨ t.kind = .float →
      endsInDigit t.lexeme.toList = true ∨
        t.kind = .float ∧ t.lexeme.toList.getLast? = some '_') ∧
      (∀ before n, Numeral.IsMet source before n → n.text.getLast? = some '_' →
        (x.Reports ((Location.start file).after before) n.text ↔
          n.isInteger = true ∨ n.real? = none) ∧
        (x.Accepts ((Location.start file).after before) n.text ↔
          n.isInteger = false ∧ n.real? ≠ none)) ∧
      (x.RejectsUnderscores file source ↔
        ∀ before n, Numeral.IsMet source before n → n.text.getLast? = some '_' →
          n.isInteger = true ∨ n.real? = none) :=
  ⟨fun _ mem number => endsInDigit_or_of_mem h mem number,
    fun _ _ met last => ⟨reports_iff_of_isMet h met last, accepts_iff_of_isMet h met last⟩,
    rejectsUnderscores_iff_of_isMet h⟩

/-- An integer is reported. Behind it stands a number with a fraction and an exponent. -/
theorem rejectsUnderscores_iff_mixed :
    ∃ x, ofSource "m" "2_ 1_.5e3_".toList = .ok x ∧
      x.Reports (.start "m") ['2', '_'] ∧ ¬ x.Reports ⟨"m", 1, 4, 3⟩ "1_.5e3_".toList ∧
      x.Accepts ⟨"m", 1, 4, 3⟩ "1_.5e3_".toList ∧ ¬ x.RejectsUnderscores "m" "2_ 1_.5e3_".toList := by
  cases read : ofSource "m" "2_ 1_.5e3_".toList with
  | error a =>
    have isOk : (ofSource "m" "2_ 1_.5e3_".toList).toOption.isSome = true := by decide +kernel
    rw [read] at isOk
    cases isOk
  | ok x =>
    obtain ⟨-, each, whole⟩ := rejectsUnderscores_iff read
    let real : Numeral := ⟨['1', '_'], some ['5'], some ⟨['e'], ['3', '_']⟩⟩
    have first : Numeral.IsMet "2_ 1_.5e3_".toList [] ⟨['2', '_'], none, none⟩ :=
      ⟨_, " 1_.5e3_".toList, .start _, by decide +kernel⟩
    have second : Numeral.IsMet "2_ 1_.5e3_".toList ['2', '_', ' '] real :=
      ⟨"1_.5e3_".toList, [], .step (by decide +kernel : Piece.read '2' "_ 1_.5e3_".toList =
        .ok (.fault (.trailingUnderscore ['2', '_']) ['2', '_', ' '], "1_.5e3_".toList)) (.start _),
        by decide +kernel⟩
    have inRange : real.real? ≠ none := by decide +kernel
    obtain ⟨reports, -⟩ := each _ _ first rfl
    obtain ⟨silent, accepts⟩ := each _ _ second rfl
    refine ⟨x, rfl, reports.2 (.inl rfl), fun told => ?_, accepts.2 ⟨rfl, inRange⟩, fun all => ?_⟩
    · exact (silent.1 told).elim nofun inRange
    · exact (whole.1 all _ _ second rfl).elim nofun inRange

/-- A fraction with an underscore at its end is a number. -/
theorem not_rejectsUnderscores_fraction :
    ∃ x t, ofSource "m" "1.5_".toList = .ok x ∧ x.tokens = [t] ∧ t.kind = .float ∧
      t.lexeme = "1.5_" ∧ x.errors = [] ∧ ¬ x.RejectsUnderscores "m" "1.5_".toList := by
  have cut : pieces "1.5_".toList =
      .ok [.token (.float ⟨false, 6755399441055744, -52⟩) "1.5_".toList] := by decide +kernel
  refine ⟨_, _, by rw [ofSource, cut]; rfl, rfl, rfl, rfl, rfl, ?_⟩
  intro rejects
  have ends := rejects.endsInDigit _ List.mem_cons_self (.inr rfl)
  exact absurd ends (by decide +kernel)

end Lexing

end ComponentMarkup
