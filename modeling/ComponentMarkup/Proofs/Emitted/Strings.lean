import ComponentMarkup.Construction.Render
import ComponentMarkup.Proofs.Emitted.Literals
import ComponentMarkup.Proofs.Lexing.Placement
import ComponentMarkup.Proofs.Parsing.Expressions

/-!
# Strings from markup to emitted code

A string is escaped one way in markup and another way in emitted code. Its value is the same in
both.

## Main definitions

* `StringLiteral.IsBody`, `StringLiteral.IsWritten` — how a value is written as a string of markup.
* `StringLiteral.IsKept` — what becomes of a string that is compiled.

## Main statements

* `RenderedPiece.ofTokens_append_cons`, `renderTokens_append_cons` — the text of a token in a group.
* `StringLiteral.isKept_of_isWritten` — every value can be written, and is kept.
-/

namespace ComponentMarkup

open Text (CodePoint)

namespace StringLiteral

/-- A value between quotation marks: a backslash in front of a backslash and of a quotation mark,
the number of a surrogate in four hexadecimal digits, and all else as it is. -/
inductive IsBody : List CodePoint → List Char → Prop where
  | nil : IsBody [] []
  | raw {c : Char} {s : List CodePoint} {body : List Char} :
      c ≠ '\\' → c ≠ '"' → IsBody s body → IsBody (.ofChar c :: s) (c :: body)
  | escaped {c : Char} {s : List CodePoint} {body : List Char} :
      c = '\\' ∨ c = '"' → IsBody s body → IsBody (.ofChar c :: s) ('\\' :: c :: body)
  | numbered {p : CodePoint} {a b c d : Char} {s : List CodePoint} {body : List Char} :
      p.IsSurrogate → Text.Literal.numbered? 4 [a, b, c, d] = some p → IsBody s body →
      IsBody (p :: s) ('\\' :: 'u' :: a :: b :: c :: d :: body)

/-- A value as a string of markup. -/
def IsWritten (s : List CodePoint) (text : List Char) : Prop :=
  ∃ body, IsBody s body ∧ text = '"' :: body ++ ['"']

theorem exists_isWritten (s : List CodePoint) : ∃ text, IsWritten s text := by
  suffices ∃ body, IsBody s body from this.elim fun body h => ⟨_, body, h, rfl⟩
  induction s with
  | nil => exact ⟨[], .nil⟩
  | cons p s ih =>
    obtain ⟨body, isBody⟩ := ih
    by_cases surrogate : p.IsSurrogate
    · have lt : p.val < 16 ^ 4 := by
        have := surrogate.2
        omega
      have digits := Text.Literal.numbered?_hexDigits lt []
      exact ⟨_, .numbered surrogate digits isBody⟩
    · have char : p.toChar? = some (.ofNat p.val) := if_neg surrogate
      rw [← CodePoint.ofChar_of_toChar? char]
      by_cases special : Char.ofNat p.val = '\\' ∨ Char.ofNat p.val = '"'
      · exact ⟨_, .escaped special isBody⟩
      · obtain ⟨backslash, quote⟩ := not_or.1 special
        exact ⟨_, .raw backslash quote isBody⟩

/-! ## Reading -/

/-- Four digits have the same value in markup and in emitted code. -/
theorem byNumber?_eq (a b c d : Char) :
    byNumber? a b c d = Text.Literal.numbered? 4 [a, b, c, d] := by
  simp only [byNumber?, Text.Literal.numbered?, List.take, List.mapM_cons, List.mapM_nil]
  cases Text.hexValue? a <;> cases Text.hexValue? b <;> cases Text.hexValue? c <;>
    cases Text.hexValue? d <;> simp [Text.Literal.number, CodePoint.ofNat?]
  grind

/-- The digits of a number. -/
theorem hexValue?_of_numbered? {p : CodePoint} {a b c d : Char}
    (h : Text.Literal.numbered? 4 [a, b, c, d] = some p) :
    ∀ e ∈ [a, b, c, d], (Text.hexValue? e).isSome = true := by
  rw [← byNumber?_eq] at h
  simp only [byNumber?, Option.bind_eq_bind, Option.bind_eq_some_iff] at h
  obtain ⟨x, ha, y, hb, z, hc, w, hd, -⟩ := h
  simp [ha, hb, hc, hd]

theorem split?_cons {c : Char} (quote : c ≠ '"') (backslash : c ≠ '\\') (cs : List Char) :
    split? (c :: cs) = (split? cs).map fun (body, rest) => (c :: body, rest) :=
  split?.eq_5 _ _ quote (by simp [backslash]) (by simp [backslash])

theorem split?_append {s : List Char} (h : ∀ c ∈ s, c ≠ '"' ∧ c ≠ '\\') (cs : List Char) :
    split? (s ++ cs) = (split? cs).map fun (body, rest) => (s ++ body, rest) := by
  induction s with
  | nil =>
    rw [List.nil_append]
    cases split? cs <;> rfl
  | cons c s ih =>
    obtain ⟨⟨quote, backslash⟩, more⟩ := List.forall_mem_cons.1 h
    rw [List.cons_append, split?_cons quote backslash, ih more]
    cases split? cs <;> rfl

namespace IsBody

variable {s : List CodePoint} {body : List Char}

theorem split?_eq (h : IsBody s body) (rest : List Char) :
    split? (body ++ '"' :: rest) = some (body, rest) := by
  induction h with
  | nil => rfl
  | raw backslash quote _ ih => rw [List.cons_append, split?_cons quote backslash, ih]; rfl
  | escaped _ _ ih => simp [split?, ih]
  | @numbered p a b c d s body _ digits _ ih =>
    have plain : ∀ e ∈ [a, b, c, d], e ≠ '"' ∧ e ≠ '\\' := by
      intro e he
      have digit := hexValue?_of_numbered? digits e he
      constructor <;> rintro rfl <;> cases digit
    have passed := split?_append plain (body ++ '"' :: rest)
    simp only [List.cons_append, List.nil_append] at passed
    simp [split?, passed, ih]

theorem decode_eq (h : IsBody s body) : decode body = s := by
  induction h with
  | nil => rw [decode]
  | raw backslash _ _ ih => rw [decode.eq_4 _ _ (by simp [backslash]) (by simp [backslash]), ih]
  | @escaped c s body special _ ih =>
    have letter : c ≠ 'u' := by rintro rfl; simp at special
    have self : unescape c = c := by rcases special with rfl | rfl <;> rfl
    rw [decode.eq_3 _ _ (by simp [letter]), self, ih]
  | numbered _ digits _ ih => rw [decode, byNumber?_eq, digits, ih]

end IsBody

/-- A value that is written as a string is the only token of its text. -/
theorem IsWritten.pieces_eq {s : List CodePoint} {text : List Char} (h : IsWritten s text) :
    pieces text = .ok [.token (.string s) text] := by
  obtain ⟨body, isBody, rfl⟩ := h
  have read : Piece.read '"' (body ++ ['"']) =
      .ok (.token (.string s) ('"' :: body ++ ['"']), []) := by
    rw [← isBody.decode_eq]
    exact Piece.ReadAs.eq (.string rfl (isBody.split?_eq []))
  rw [List.cons_append, pieces_cons read, pieces]
  rfl

end StringLiteral

/-! ## Strings in a group -/

namespace RenderedPiece

/-- Only colons come to one piece with the token behind them. -/
theorem ofTokens_append_cons (ts us : List Token) {t : Token} (h : t.isMark .colon = false) :
    ofTokens (ts ++ t :: us) = ofTokens ts ++ ⟨t.render, t.start, t.stop⟩ :: ofTokens us := by
  fun_induction ofTokens ts with
  | case1 a b ts both ih => simp [ofTokens, both, ih]
  | case2 a b ts single ih => simpa [ofTokens, single] using ih
  | case3 a => cases us <;> simp [ofTokens, h]
  | case4 => cases us <;> simp [ofTokens, h]

theorem joinAfter_append_cons (stop : Nat) (ps qs : List RenderedPiece) (q : RenderedPiece) :
    ∃ gap ∈ ["", " "], joinAfter stop (ps ++ q :: qs) =
      joinAfter stop ps ++ gap ++ q.text ++ joinAfter q.stop.offset qs := by
  induction ps generalizing stop with
  | nil =>
    refine ⟨if q.start.offset = stop then "" else " ", by split <;> simp, ?_⟩
    simp [joinAfter]
  | cons p ps ih =>
    obtain ⟨gap, isGap, eq⟩ := ih p.stop.offset
    exact ⟨gap, isGap, by simp [joinAfter, eq, String.append_assoc]⟩

end RenderedPiece

/-- The text of a token stands between those of the tokens on its two sides. -/
theorem renderTokens_append_cons (before behind : List Token) {t : Token}
    (h : t.isMark .colon = false) :
    ∃ gap ∈ ["", " "], renderTokens (before ++ t :: behind) = renderTokens before ++ gap ++
      t.render ++ RenderedPiece.joinAfter t.stop.offset (RenderedPiece.ofTokens behind) := by
  unfold renderTokens
  rw [RenderedPiece.ofTokens_append_cons _ _ h]
  cases RenderedPiece.ofTokens before with
  | nil => exact ⟨"", by simp, by simp [RenderedPiece.join]⟩
  | cons p ps =>
    obtain ⟨gap, isGap, eq⟩ := RenderedPiece.joinAfter_append_cons p.stop.offset ps
      (RenderedPiece.ofTokens behind) ⟨t.render, t.start, t.stop⟩
    refine ⟨gap, isGap, ?_⟩
    simp only [List.cons_append, RenderedPiece.join, eq, String.append_assoc]

/-! ## Strings that are compiled -/

namespace StringLiteral

/-- A text is one string of the value `s`, it is read as a literal, and the literal that is emitted
for it has the value `s` again, whether it stands alone or in a group. -/
structure IsKept (names : List Char → Option CodePoint) (file : String) (s : List CodePoint)
    (text : List Char) : Prop where
  reads : ∃ x t, lex file (.ofList text) = .ok x ∧ x.all = [t, .atEnd x.stop] ∧
    t.content = .string s ∧ t.lexeme = .ofList text ∧
    ∃ rest, Parser.expression.run (.ofLexing x) = .ok (.literal (.string s) t.span) rest ∧
      rest.ahead = []
  emitted : ∀ span, Text.Literal.value? names
    (Expression.literal (.string s) span).render.toList = some s
  inGroup : ∀ t : Token, t.content = .string s → ∃ literal : String,
    Text.Literal.value? names literal.toList = some s ∧ renderTokens [t] = literal ∧
    ∀ before behind, ∃ gap ∈ ["", " "], ∃ rest,
      renderTokens (before ++ t :: behind) = renderTokens before ++ gap ++ literal ++ rest

/-- Every value can be written as a string of markup, surrogates included, and however it is
written, it is kept. -/
theorem isKept_of_isWritten (names : List Char → Option CodePoint) (file : String)
    (s : List CodePoint) :
    (∃ text, IsWritten s text) ∧ ∀ text, IsWritten s text → IsKept names file s text := by
  refine ⟨exists_isWritten s, fun text written => ⟨?_, fun span => ?_, fun t string => ?_⟩⟩
  · have lexed : lex file (.ofList text) =
        .ok (Lexing.ofPieces (.start file) [.token (.string s) text]) :=
      lex_eq_ok_iff.2 ⟨_, by rw [String.toList_ofList, written.pieces_eq], by simp [Piece.isFault],
        rfl⟩
    exact ⟨_, _, lexed, rfl, rfl, rfl, Parser.expression_whole_iff.2 (.literal rfl)⟩
  · simp [Expression.render, Value.text, Text.Literal.value?_quote]
  · have literal : t.render = (Value.string s).text := by simp [Token.render, string]
    refine ⟨t.render, ?_, ?_, fun before behind => ?_⟩
    · simp [literal, Value.text, Text.Literal.value?_quote]
    · simp [renderTokens, RenderedPiece.ofTokens, RenderedPiece.join, RenderedPiece.joinAfter]
    · have noColon : t.isMark .colon = false := by simp [Token.isMark, string]
      obtain ⟨gap, isGap, eq⟩ := renderTokens_append_cons before behind noColon
      exact ⟨gap, isGap, _, eq⟩

/-! ### A value with a bit of everything -/

namespace Mixed

/-- An apostrophe, a quotation mark, a backslash, a line break and half of a pair of surrogates. -/
def value : List CodePoint :=
  [.ofChar '\'', .ofChar '"', .ofChar '\\', .ofChar '\n', ⟨0xD83D, by decide⟩]

def text : List Char := "\"'\\\"\\\\\n\\uD83d\"".toList

theorem isWritten : IsWritten value text := by
  have number : Text.Literal.numbered? 4 ['D', '8', '3', 'd'] = some ⟨0xD83D, by decide⟩ := by
    decide
  exact ⟨_, .raw (by decide) (by decide) (.escaped (.inr rfl) (.escaped (.inl rfl)
    (.raw (by decide) (by decide) (.numbered (by decide) number .nil)))), by decide⟩

end Mixed

/-- However little is named, the value is kept. -/
theorem isKept_of_isWritten_mixed :
    IsWritten Mixed.value Mixed.text ∧ IsKept (fun _ => none) "m" Mixed.value Mixed.text :=
  ⟨Mixed.isWritten, (isKept_of_isWritten _ "m" Mixed.value).2 Mixed.text Mixed.isWritten⟩

end StringLiteral

end ComponentMarkup
