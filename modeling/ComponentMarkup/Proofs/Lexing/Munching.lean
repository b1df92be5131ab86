import ComponentMarkup.Proofs.Lexing.Assembly
import ComponentMarkup.Proofs.Lexing.Spellings

/-!
# Longest tokens

What stands between the tokens of a source are blanks and comments, and each token is as long as the
tokens of its class can be there. Numerals are read part by part, the first way that fits; since no
part can end where another one starts, that is the longest way.

## Main definitions

* `LexClass` — words, numbers, strings and marks.
* `TokenKind.HasText` — the texts of the tokens of a kind.
* `Token.IsLongest` — a token that no other one of its class exceeds.
* `Tokenized` — a text as tokens with gaps between them.

## Main statements

* `Numeral.exists_scan_of_hasText` — a numeral is read at least as far as any number goes.
* `StringLiteral.split?_eq_some_iff` — where a string ends.
* `Piece.isLongest_of_read` — a token that is read.
* `Piece.gap_of_read` — a gap that is read.
* `tokenized_of_lex` — a whole source.
-/

namespace ComponentMarkup

/-! ## The texts of tokens -/

/-- The letter of an exponent, a sign or none, and digits. -/
inductive IsExponent : List Char → Prop where
  | mk {letter : Char} {sign run : List Char} :
      letter = 'e' ∨ letter = 'E' → sign = [] ∨ sign = ['+'] ∨ sign = ['-'] → IsRun run →
      IsExponent (letter :: sign ++ run)

/-- Between quotation marks, a backslash takes the character behind it along, whichever it is. No
other character is a quotation mark. -/
inductive StringLiteral.IsContents : List Char → Prop where
  | nil : IsContents []
  | plain {c : Char} {cs : List Char} :
      c ≠ '"' → c ≠ '\\' → IsContents cs → IsContents (c :: cs)
  | escape (c : Char) {cs : List Char} : IsContents cs → IsContents ('\\' :: c :: cs)

/-- Tokens that are told from each other by their texts alone are of one class. -/
inductive LexClass where
  | ending
  | word
  | number
  | string
  | mark
deriving DecidableEq

namespace TokenKind

def lexClass : TokenKind → LexClass
  | eof => .ending
  | identifier | boolean _ => .word
  | integer | float => .number
  | string => .string
  | mark _ => .mark

/-- The text `s` is one of the kind. Only of a slash it matters what comes behind it. -/
inductive HasText : TokenKind → (s behind : List Char) → Prop where
  | word {c : Char} {cs behind : List Char} :
      isNameStart c = true → (∀ d ∈ cs, isNamePart d = true) →
      HasText (Piece.nameContent (c :: cs)).kind (c :: cs) behind
  | integer {run behind : List Char} : IsRun run → HasText .integer run behind
  | fraction {run more behind : List Char} :
      IsRun run → IsRun more → HasText .float (run ++ '.' :: more) behind
  | scientific {run more exponent behind : List Char} :
      IsRun run → IsRun more → IsExponent exponent →
      HasText .float (run ++ '.' :: (more ++ exponent)) behind
  | exponent {run exponent behind : List Char} :
      IsRun run → IsExponent exponent → HasText .float (run ++ exponent) behind
  | string {contents behind : List Char} :
      StringLiteral.IsContents contents → HasText .string ('"' :: contents ++ ['"']) behind
  | mark {m : Mark} {behind : List Char} :
      (m = .slash → behind.head? ≠ some '*') → HasText (.mark m) [m.char] behind

theorem lexClass_nameContent (s : List Char) : (Piece.nameContent s).kind.lexClass = .word := by
  unfold Piece.nameContent
  split
  · rfl
  · split <;> rfl

end TokenKind

open TokenKind (HasText)

/-- The text is one of the kind, and none of the class goes further into what comes behind it. -/
structure IsLongest (kind : TokenKind) (s behind : List Char) : Prop where
  hasText : HasText kind s behind
  length_le : ∀ other p q, other.lexClass = kind.lexClass → p ++ q = s ++ behind →
    HasText other p q → p.length ≤ s.length

theorem length_le_of_stops {P : Char → Bool} {p q s behind : List Char}
    (eq : p ++ q = s ++ behind) (all : ∀ c ∈ p, P c = true) (stops : Stops P behind) :
    p.length ≤ s.length := by
  rcases List.append_eq_append_iff.1 eq with ⟨more, rfl, -⟩ | ⟨more, rfl, rfl⟩
  · simp
  · cases more with
    | nil => simp
    | cons c more =>
      have goesOn := all c (by simp)
      rw [stops c rfl] at goesOn
      cases goesOn

/-! ## Numerals -/

theorem exists_digitRun?_of_isRun {run : List Char} (h : IsRun run) (behind : List Char) :
    ∃ longest rest, digitRun? (run ++ behind) = some (longest, rest) ∧
      run.length ≤ longest.length := by
  cases run with
  | nil => exact h.elim
  | cons c cs =>
    refine ⟨_, _, by rw [List.cons_append, digitRun?, if_pos h.1], ?_⟩
    rw [List.takeWhile_append_of_pos h.2]
    simp

theorem stops_isRunPart_point (s : List Char) : Stops isRunPart ('.' :: s) := by
  simp only [Stops, List.head?_cons, Option.mem_some_iff, forall_eq']
  decide

namespace IsExponent

variable {s : List Char}

theorem exists_scan? (h : IsExponent s) (behind : List Char) :
    ∃ e rest, Exponent.scan? (s ++ behind) = some (e, rest) ∧ s.length ≤ e.text.length := by
  cases h with
  | @mk letter sign run isLetter isSign isRun =>
    obtain ⟨longest, rest, scanned, le⟩ := exists_digitRun?_of_isRun isRun behind
    refine ⟨⟨letter :: sign, longest⟩, rest, ?_, ?_⟩
    · exact Exponent.scan?_eq_some_iff.2
        ⟨letter, sign, isLetter, isSign, rfl, run ++ behind, by simp, scanned⟩
    · simp only [Exponent.text, List.length_append]
      omega

theorem stops (h : IsExponent s) (behind : List Char) : Stops isRunPart (s ++ behind) := by
  cases h with
  | mk isLetter =>
    simp only [Stops, List.cons_append, List.head?_cons, Option.mem_some_iff, forall_eq']
    rcases isLetter with rfl | rfl <;> decide

theorem scanFraction_eq (h : IsExponent s) (behind : List Char) :
    Numeral.scanFraction (s ++ behind) = (none, s ++ behind) := by
  refine Numeral.scanFraction_of_eq_none (Numeral.scanFraction_eq_none_iff.2 fun cs eq => ?_)
  cases h with
  | mk isLetter => rcases isLetter with rfl | rfl <;> cases eq

theorem of_scan? {rest : List Char} {e : Exponent} (h : Exponent.scan? s = some (e, rest)) :
    IsExponent e.text := by
  obtain ⟨letter, sign, isLetter, isSign, mark, t, -, run⟩ := Exponent.scan?_eq_some_iff.1 h
  rw [Exponent.text, mark]
  exact .mk isLetter isSign (digitRun?_eq_some_iff.1 run).2.1

end IsExponent

namespace Numeral

theorem isRun_of_scanFraction {s run rest : List Char} (h : scanFraction s = (some run, rest)) :
    IsRun run := by
  obtain ⟨cs, -, found⟩ := scanFraction_eq_some_iff.1 h
  exact (digitRun?_eq_some_iff.1 found).2.1

theorem isExponent_of_scanExponent {s rest : List Char} {e : Exponent}
    (h : scanExponent s = (some e, rest)) : IsExponent e.text :=
  .of_scan? (scanExponent_eq_some_iff.1 h)

/-- A numeral has one of the four forms, that of an integer if it is one. -/
theorem hasText_of_scan {s rest : List Char} {n : Numeral} (h : scan s = some (n, rest))
    (behind : List Char) :
    HasText (if n.isInteger then .integer else .float) n.text behind := by
  obtain ⟨whole, f, e⟩ := n
  obtain ⟨t, u, scanned, fraction, exponent⟩ := scan_eq_some_iff.1 h
  have run : IsRun whole := (digitRun?_eq_some_iff.1 scanned).2.1
  cases f with
  | none =>
    cases e with
    | none => simpa [text, fractionText, exponentText, isInteger] using HasText.integer run
    | some e =>
      simpa [text, fractionText, exponentText, isInteger] using
        HasText.exponent run (isExponent_of_scanExponent exponent)
  | some f =>
    have more := isRun_of_scanFraction fraction
    cases e with
    | none =>
      simpa [text, fractionText, exponentText, isInteger] using HasText.fraction run more
    | some e =>
      simpa [text, fractionText, exponentText, isInteger] using
        HasText.scientific run more (isExponent_of_scanExponent exponent)

/-- No number is longer than the numeral that is read. The parts of the number are those of the
numeral but for the last one, since a point or a letter ends a run of digits. -/
theorem exists_scan_of_hasText {kind : TokenKind} {p q : List Char} (h : HasText kind p q)
    (number : kind.lexClass = .number) :
    ∃ n rest, scan (p ++ q) = some (n, rest) ∧ p.length ≤ n.text.length := by
  cases h with
  | word =>
    rw [TokenKind.lexClass_nameContent] at number
    cases number
  | string | mark => cases number
  | integer isRun =>
    obtain ⟨longest, rest, scanned, le⟩ := exists_digitRun?_of_isRun isRun q
    refine ⟨_, _, by rw [scan, scanned, Option.map_some], ?_⟩
    simp only [text, List.length_append]
    omega
  | @fraction run more _ isRun isMore =>
    obtain ⟨longest, rest, scanned, le⟩ := exists_digitRun?_of_isRun isMore q
    have first : digitRun? (run ++ '.' :: (more ++ q)) = some (run, '.' :: (more ++ q)) :=
      digitRun?_eq_some_iff.2 ⟨rfl, isRun, stops_isRunPart_point _⟩
    refine ⟨⟨run, some longest, (scanExponent rest).1⟩, (scanExponent rest).2, ?_, ?_⟩
    · simp [scan, first, scanFraction, scanned]
    · simp only [text, fractionText, List.length_append, List.length_cons]
      omega
  | @scientific run more exponent _ isRun isMore isExponent =>
    obtain ⟨e, rest, scanned, le⟩ := isExponent.exists_scan? q
    have first : digitRun? (run ++ '.' :: (more ++ (exponent ++ q))) =
        some (run, '.' :: (more ++ (exponent ++ q))) :=
      digitRun?_eq_some_iff.2 ⟨rfl, isRun, stops_isRunPart_point _⟩
    have second : digitRun? (more ++ (exponent ++ q)) = some (more, exponent ++ q) :=
      digitRun?_eq_some_iff.2 ⟨rfl, isMore, isExponent.stops q⟩
    refine ⟨⟨run, some more, some e⟩, rest, ?_, ?_⟩
    · simp [scan, first, scanFraction, second, scanExponent, scanned]
    · simp only [text, fractionText, exponentText, List.length_append, List.length_cons]
      omega
  | @exponent run exponent _ isRun isExponent =>
    obtain ⟨e, rest, scanned, le⟩ := isExponent.exists_scan? q
    have first : digitRun? (run ++ (exponent ++ q)) = some (run, exponent ++ q) :=
      digitRun?_eq_some_iff.2 ⟨rfl, isRun, isExponent.stops q⟩
    refine ⟨⟨run, none, some e⟩, rest, ?_, ?_⟩
    · simp [scan, first, isExponent.scanFraction_eq, scanExponent, scanned]
    · simp only [text, exponentText, List.length_append]
      omega

theorem isLongest_of_scan {s rest : List Char} {n : Numeral} (h : scan s = some (n, rest)) :
    IsLongest (if n.isInteger then .integer else .float) n.text rest := by
  have number : (if n.isInteger then TokenKind.integer else .float).lexClass = .number := by
    split <;> rfl
  refine ⟨hasText_of_scan h rest, fun other p q same whole hasText => ?_⟩
  obtain ⟨n', rest', scanned, le⟩ := exists_scan_of_hasText hasText (same.trans number)
  rw [whole, append_of_scan h, h] at scanned
  cases scanned
  exact le

end Numeral

/-! ## Strings -/

theorem StringLiteral.split?_eq_some_iff {s contents rest : List Char} :
    split? s = some (contents, rest) ↔ s = contents ++ '"' :: rest ∧ IsContents contents := by
  constructor
  · intro h
    refine ⟨(append_of_split? h).symm, ?_⟩
    fun_induction split? s generalizing contents with
    | case1 => cases h
    | case2 =>
      cases h
      exact .nil
    | case3 => cases h
    | case4 c cs ih =>
      obtain ⟨⟨contents, r⟩, found, eq⟩ := Option.map_eq_some_iff.1 h
      cases eq
      exact .escape c (ih found)
    | case5 c cs quote last escape ih =>
      obtain ⟨⟨contents, r⟩, found, eq⟩ := Option.map_eq_some_iff.1 h
      cases eq
      refine .plain quote ?_ (ih found)
      rintro rfl
      cases cs with
      | nil => exact last rfl rfl
      | cons d ds => exact escape d ds rfl rfl
  · rintro ⟨rfl, isContents⟩
    induction isContents with
    | nil => rfl
    | @plain c cs quote backslash _ ih =>
      rw [List.cons_append, split?.eq_5 _ _ quote (by simp [backslash]) (by simp [backslash]), ih]
      rfl
    | escape c _ ih =>
      rw [List.cons_append, List.cons_append, split?, ih]
      rfl

/-! ## Tokens and gaps -/

namespace Piece

theorem isLongest_of_read {c : Char} {cs rest : List Char} {content : Content}
    {lexeme : List Char} (h : read c cs = .ok (.token content lexeme, rest)) :
    IsLongest content.kind lexeme rest := by
  have whole := append_of_read h
  cases readAs_iff.2 h with
  | numeral _ scanned numeral =>
    obtain ⟨rfl, rfl, -⟩ := numeral.token
    rw [numeral.kind_eq]
    exact Numeral.isLongest_of_scan scanned
  | name _ _ start =>
    refine ⟨.word start fun _ => List.mem_takeWhile_imp, ?_⟩
    intro other p q same eq hasText
    rw [TokenKind.lexClass_nameContent] at same
    cases hasText with
    | word _ parts =>
      rw [List.cons_append, List.cons_append, List.cons.injEq] at eq
      simpa using length_le_of_stops eq.2 parts (stops_dropWhile isNamePart cs)
    | integer | fraction | scientific | exponent | string | mark => cases same
  | @string body _ quote closed =>
    obtain ⟨rfl, isContents⟩ := StringLiteral.split?_eq_some_iff.1 closed
    refine ⟨.string isContents, ?_⟩
    intro other p q same eq hasText
    cases hasText with
    | @string contents _ isContents' =>
      -- Both end at the first quotation mark that no backslash takes along.
      have eq' : contents ++ '"' :: q = body ++ '"' :: rest := by simpa using eq
      have again := StringLiteral.split?_eq_some_iff.2 ⟨eq'.symm, isContents'⟩
      rw [closed] at again
      cases again
      exact Nat.le_refl _
    | word => cases (TokenKind.lexClass_nameContent _).symm.trans same
    | integer | fraction | scientific | exponent | mark => cases same
  | mark m eq comment =>
    subst eq
    refine ⟨.mark ?_, ?_⟩
    · rintro rfl
      exact comment rfl
    · intro other p q same eq hasText
      cases hasText with
      | mark => exact Nat.le_refl _
      | word => cases (TokenKind.lexClass_nameContent _).symm.trans same
      | integer | fraction | scientific | exponent | string => cases same

/-- A comment is closed by the first mark that can close it, or by none. -/
theorem splitComment_cases (s : List Char) :
    (∃ body rest, splitComment s = (body ++ ['*', '/'], rest) ∧ ¬ ['*', '/'] <:+: body) ∨
      splitComment s = (s, []) ∧ ¬ ['*', '/'] <:+: s := by
  have longer {c : Char} {body : List Char} (none : ¬ ['*', '/'] <:+: body)
      (start : ∀ cs, c = '*' → body = '/' :: cs → False) : ¬ ['*', '/'] <:+: c :: body := by
    rw [List.infix_cons_iff, not_or]
    refine ⟨?_, none⟩
    rintro ⟨more, eq⟩
    simp only [List.cons_append, List.nil_append, List.cons.injEq] at eq
    exact start more eq.1.symm eq.2.symm
  fun_induction splitComment s with
  | case1 => exact .inr ⟨rfl, by simp⟩
  | case2 cs => exact .inl ⟨[], cs, rfl, by simp⟩
  | case3 c cs noEnd body' rest' eq ih =>
    rcases ih with ⟨body, rest, split, none⟩ | ⟨split, none⟩
    · cases eq.symm.trans split
      refine .inl ⟨c :: body, _, rfl, longer none ?_⟩
      rintro ds rfl rfl
      have whole := append_splitComment cs
      rw [eq] at whole
      exact noEnd _ rfl whole.symm
    · cases eq.symm.trans split
      exact .inr ⟨rfl, longer none noEnd⟩

/-- A comment that is read is closed unless it is at the end. -/
theorem gap_of_read {c : Char} {cs g rest : List Char} (h : read c cs = .ok (.gap g, rest)) :
    Gap g ∨ ∃ body, g = '/' :: '*' :: body ∧ ¬ ['*', '/'] <:+: body ∧ rest = [] := by
  rcases read_gap_eq_ok_iff.1 h with ⟨blank, rfl, rfl⟩ | ⟨ds, body, rfl, rfl, split, rfl⟩
  · exact .inl (.blank blank .nil)
  · rcases splitComment_cases ds with ⟨inner, behind, closed, none⟩ | ⟨toEnd, none⟩
    · cases split.symm.trans closed
      exact .inl (.comment none .nil)
    · cases split.symm.trans toEnd
      exact .inr ⟨_, rfl, none, rfl⟩

end Piece

theorem Gap.append {g g' : List Char} (h : Gap g) (h' : Gap g') : Gap (g ++ g') := by
  induction h with
  | nil => exact h'
  | blank blank _ ih => exact .blank blank ih
  | comment closed _ ih =>
    rw [List.append_assoc, List.cons_append, List.cons_append]
    exact .comment closed ih

/-! ## Sources -/

/-- What stands behind the last token. -/
inductive EndGap : List Char → Prop where
  | gap {g : List Char} : Gap g → EndGap g
  | openComment {g body : List Char} :
      Gap g → ¬ ['*', '/'] <:+: body → EndGap (g ++ '/' :: '*' :: body)

theorem EndGap.gap_append {g s : List Char} (h : EndGap s) (gap : Gap g) : EndGap (g ++ s) := by
  cases h with
  | gap more => exact .gap (gap.append more)
  | openComment more none =>
    rw [← List.append_assoc]
    exact .openComment (gap.append more) none

/-- The text that starts at the offset `n` is made of the tokens, each of them in its place and
as long as it can be, with gaps in front of them and behind the last one. -/
inductive Tokenized : (n : Nat) → List Char → List Token → Prop where
  | last {n : Nat} {s : List Char} : EndGap s → Tokenized n s []
  | token {n : Nat} {g rest : List Char} {t : Token} {ts : List Token} :
      Gap g → t.start.offset = n + g.length → IsLongest t.kind t.lexeme.toList rest →
      Tokenized (t.start.offset + t.lexeme.toList.length) rest ts →
      Tokenized n (g ++ (t.lexeme.toList ++ rest)) (t :: ts)

theorem Tokenized.gap_append {n : Nat} {g s : List Char} {ts : List Token}
    (h : Tokenized (n + g.length) s ts) (gap : Gap g) : Tokenized n (g ++ s) ts := by
  cases h with
  | last ends => exact .last (ends.gap_append gap)
  | token more start longest rest =>
    rw [← List.append_assoc]
    refine .token (gap.append more) ?_ longest rest
    rw [start, List.length_append, Nat.add_assoc]

/-- The induction is on the pieces of the text. A gap is joined to the one in front of the next
token. -/
theorem tokenized_of_pieces {s : List Char} {ps : List Piece} (h : pieces s = .ok ps)
    (clean : ∀ p ∈ ps, p.isFault = false) (l : Source.Location) :
    Tokenized l.offset s (Lexing.ofPieces l ps).tokens := by
  fun_induction pieces s generalizing ps l with
  | case1 =>
    cases h
    exact .last (.gap .nil)
  | case2 => cases h
  | case3 => cases h
  | case4 c cs p rest read qs hqs ih =>
    cases h
    obtain ⟨noFault, clean'⟩ := List.forall_mem_cons.1 clean
    have behind := ih hqs clean' (l.after p.text)
    rw [Source.Location.offset_after] at behind
    rw [← Piece.append_of_read read]
    cases p with
    | fault f text => cases noFault
    | token content lexeme =>
      have text : (String.ofList lexeme).toList = lexeme := String.toList_ofList
      have longest : IsLongest content.kind (String.ofList lexeme).toList rest := by
        rw [text]
        exact Piece.isLongest_of_read read
      have first := @Tokenized.token l.offset [] rest ⟨content, .ofList lexeme, l⟩ _ .nil rfl
        longest (text.symm ▸ behind)
      simpa only [Lexing.tokens_token, Piece.text, text, List.nil_append] using first
    | gap g =>
      rcases Piece.gap_of_read read with gap | ⟨body, rfl, none, rfl⟩
      · exact behind.gap_append gap
      · -- Behind an open comment the text has come to its end.
        rw [pieces] at hqs
        cases hqs
        rw [List.append_nil]
        exact .last (.openComment .nil none)

/-- A source that is lexed without error is made of its tokens and gaps, and no token of it could be
longer. -/
theorem tokenized_of_lex {file source : String} {x : Lexing} (h : lex file source = .ok x) :
    Tokenized 0 source.toList x.tokens := by
  obtain ⟨ps, hps, clean, rfl⟩ := lex_eq_ok_iff.1 h
  exact tokenized_of_pieces hps clean (.start file)

/-- Of `1.5e+`, the letter and the sign are tokens of their own, and the open comment is none. -/
theorem tokenized_of_lex_cutShort :
    ∃ x, lex "<markup>" "a/1.5e+/**/\"\\\"\" /*" = .ok x ∧
      x.tokens.map Token.lexeme = ["a", "/", "1.5", "e", "+", "\"\\\"\""] ∧
      Tokenized 0 "a/1.5e+/**/\"\\\"\" /*".toList x.tokens := by
  have lexemes : (lex "<markup>" "a/1.5e+/**/\"\\\"\" /*").toOption.map
      (·.tokens.map Token.lexeme) = some ["a", "/", "1.5", "e", "+", "\"\\\"\""] := by
    decide +kernel
  cases lexed : lex "<markup>" "a/1.5e+/**/\"\\\"\" /*" with
  | error e =>
    rw [lexed] at lexemes
    cases lexemes
  | ok x =>
    rw [lexed] at lexemes
    exact ⟨x, rfl, Option.some.inj lexemes, tokenized_of_lex lexed⟩

end ComponentMarkup
