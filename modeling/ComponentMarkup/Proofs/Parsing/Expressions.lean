import ComponentMarkup.Proofs.Parsing.Paths

/-!
# Reading expressions

An expression is recognized by its first token. Only a path can be followed by something that would
go on with it.

## Main definitions

* `Lookahead.EndsExpression` — the tokens ahead do not go on with an expression.

## Main statements

* `Parser.expression_sound`, `Parser.expression_complete` — an expression.
-/

namespace ComponentMarkup

open Grammar Lookahead

/-- Neither a path nor the parenthesis of a call comes next. -/
def Lookahead.EndsExpression (ts : List Token) : Prop := EndsPath ts ∧ mark? .leftParen ts = none

theorem Token.literal?_of_isMark {t : Token} {m : Mark} (h : t.isMark m = true) :
    t.content.literal? = none := by
  rw [of_decide_eq_true h]
  rfl

theorem Token.literal?_of_isIdentifier {t : Token} (h : t.isIdentifier = true) :
    t.content.literal? = none := by
  rw [of_decide_eq_true h]
  rfl

theorem Parser.negated?_eq_some_iff {c : Content} {v : Value} :
    negated? c = some v ↔ IsNegated c v := by
  constructor
  · intro h
    cases c with
    | integer n =>
      cases h
      exact .integer n
    | float x =>
      cases h
      exact .float x
    | _ => cases h
  · rintro (n | x) <;> rfl

namespace Grammar

/-- A path starts with a name or with a colon. -/
theorem IsValuePath.exists_first {ts : List Token} {p : ValuePath} (h : IsValuePath ts p) :
    ∃ t us, ts = t :: us ∧ (t.isIdentifier || t.isMark .colon) = true := by
  obtain @⟨cs, ts, leading, first, more, leads, isFirst, -⟩ := h
  cases leads with
  | absent => exact ⟨first, ts, rfl, by simp [isFirst]⟩
  | @present a b isA isB => exact ⟨a, b :: first :: ts, rfl, by simp [isA]⟩

end Grammar

namespace Parser

variable {s s' : TokenStream} {ts : List Token} {e : Expression} {t : Token}

theorem negativeNumber_sound (h : negativeNumber.run s = .ok e s')
    (starts : s.ahead.head?.any (·.isMark .minus) = true) :
    ∃ ts, IsExpression ts e ∧ s = s'.before ts := by
  obtain ⟨minus, s₁, hminus, hnumber⟩ := run_bind_eq_ok.1 h
  rw [run_bind_of_ok run_peek] at hnumber
  obtain rfl := advance_eq_ok_iff.1 hminus
  split at hnumber
  case h_1 => cases hnumber
  case h_2 t ahead =>
    split at hnumber
    case h_1 => cases hnumber
    case h_2 value negated =>
      obtain ⟨number, s₂, hadvance, hpure⟩ := run_bind_eq_ok.1 hnumber
      cases hpure
      obtain rfl := advance_eq_ok_iff.1 hadvance
      cases ahead
      exact ⟨[minus, _], .negative starts (negated?_eq_some_iff.1 negated), rfl⟩

theorem negativeNumber_complete {minus number : Token} {value : Value}
    (h : IsNegated number.content value) :
    negativeNumber.run (s.before [minus, number]) =
      .ok (.literal value (minus.spanTo number)) s := by
  rw [← List.singleton_append, TokenStream.before_append, negativeNumber,
    run_bind_of_ok (run_advance _), run_bind_of_ok run_peek]
  simp only [TokenStream.ahead_before, List.singleton_append, List.head?_cons,
    negated?_eq_some_iff.2 h]
  rfl

theorem block_sound (h : block.run s = .ok e s')
    (starts : s.ahead.head?.any (·.isMark .leftBrace) = true) :
    ∃ ts, IsExpression ts e ∧ s = s'.before ts := by
  obtain ⟨g, s₁, hg, h⟩ := run_bind_eq_ok.1 h
  cases h
  obtain ⟨opens, balanced, closes, rfl⟩ := group_sound (c := .rightBrace) rfl hg starts
  exact ⟨g.tokens, .block opens balanced closes, rfl⟩

theorem pathOrCall_sound (h : (pathOrCall t).run s = .ok e s') (starts : s.ahead.head? = some t) :
    ∃ ts, IsExpression ts e ∧ s = s'.before ts := by
  obtain ⟨p, s₁, hp, hcall⟩ := run_bind_eq_ok.1 h
  obtain ⟨ts, path, rfl⟩ := valuePath_sound hp starts
  rw [run_bind_of_ok (run_check _)] at hcall
  split at hcall
  case isTrue calls =>
    obtain ⟨g, s₂, hg, hpure⟩ := run_bind_eq_ok.1 hcall
    cases hpure
    simp only [Token.kind_eq_mark, Bool.decide_eq_true] at calls
    obtain ⟨opens, balanced, closes, rfl⟩ := group_sound (c := .rightParen) rfl hg calls
    exact ⟨ts ++ g.tokens, .call path opens balanced closes, by simp⟩
  case isFalse =>
    cases hcall
    exact ⟨ts, .path path, rfl⟩

theorem expression_sound (h : expression.run s = .ok e s') :
    ∃ ts, IsExpression ts e ∧ s = s'.before ts := by
  rw [expression, run_bind_of_ok run_peek] at h
  split at h
  case h_1 => cases h
  case h_2 t ahead =>
    split at h
    case h_1 value hvalue =>
      obtain ⟨literal, s₁, hliteral, hpure⟩ := run_bind_eq_ok.1 h
      cases hpure
      obtain rfl := advance_eq_ok_iff.1 hliteral
      cases ahead
      exact ⟨[_], .literal hvalue, rfl⟩
    case h_2 =>
      split at h
      case isTrue isMinus => exact negativeNumber_sound h (by simp [ahead, isMinus])
      split at h
      case isTrue isBrace => exact block_sound h (by simp [ahead, isBrace])
      split at h
      case isTrue => exact pathOrCall_sound h ahead
      case isFalse => cases h

theorem pathOrCall_complete_path {p : ValuePath} (h : IsValuePath ts p) (starts : ts.head? = some t)
    (follow : EndsExpression s.ahead) :
    (pathOrCall t).run (s.before ts) = .ok (.path p) s := by
  rw [pathOrCall, run_bind_of_ok (valuePath_complete h starts follow.1),
    run_bind_of_ok (run_check _), any_head?_eq_false_iff.2 follow.2]
  rfl

theorem pathOrCall_complete_call {p : ValuePath} {opener closer : Token} {inside : List Token}
    (h : IsValuePath ts p) (starts : ts.head? = some t) (opens : opener.isMark .leftParen = true)
    (balanced : Balanced inside) (closes : closer.isMark .rightParen = true) :
    (pathOrCall t).run (s.before (ts ++ (opener :: inside ++ [closer]))) =
      .ok (.call p inside ⟨p.span.start, closer.stop⟩) s := by
  have follow : EndsPath (s.before (opener :: inside ++ [closer])).ahead :=
    endsPath_cons (Token.isMark_of_isMark opens nofun) (Token.isMark_of_isMark opens nofun)
  have called : (s.before (opener :: inside ++ [closer])).ahead.head?.any
      (·.kind = .mark .leftParen) = true := by
    simp [Token.kind_eq_mark, opens]
  rw [TokenStream.before_append, pathOrCall, run_bind_of_ok (valuePath_complete h starts follow),
    run_bind_of_ok (run_check _), called, if_pos rfl,
    run_bind_of_ok (group_complete (c := .rightParen) rfl opens balanced closes)]
  rfl

/-- A path is read as such, whether it is called or not. -/
theorem run_expression_of_isValuePath {p : ValuePath} (h : IsValuePath ts p) (us : List Token) :
    ∃ t, ts.head? = some t ∧ expression.run (s.before (ts ++ us)) =
      (pathOrCall t).run (s.before (ts ++ us)) := by
  obtain ⟨t, ts, rfl, starts⟩ := h.exists_first
  refine ⟨t, rfl, ?_⟩
  rw [expression, run_bind_of_ok run_peek]
  simp only [TokenStream.ahead_before, List.cons_append, List.head?_cons, starts, if_true]
  rcases Bool.or_eq_true_iff.1 starts with name | colon
  · simp only [Token.literal?_of_isIdentifier name, Token.isMark_of_isIdentifier name,
      Bool.false_eq_true, if_false]
  · simp only [Token.literal?_of_isMark colon, Token.isMark_of_isMark colon (n := .minus) nofun,
      Token.isMark_of_isMark colon (n := .leftBrace) nofun, Bool.false_eq_true, if_false]

/-- A literal is read whatever comes behind it. -/
theorem expression_complete_literal {value : Value} (h : t.content.literal? = some value) :
    expression.run (s.before [t]) = .ok (.literal value t.span) s := by
  rw [expression, run_bind_of_ok run_peek]
  simp only [TokenStream.ahead_before, List.singleton_append, List.head?_cons, h]
  rfl

theorem expression_complete_negative {minus number : Token} {value : Value}
    (isMinus : minus.isMark .minus = true) (negated : IsNegated number.content value) :
    expression.run (s.before [minus, number]) = .ok (.literal value (minus.spanTo number)) s := by
  rw [expression, run_bind_of_ok run_peek]
  simp only [TokenStream.ahead_before, List.cons_append, List.head?_cons,
    Token.literal?_of_isMark isMinus, isMinus, if_true]
  exact negativeNumber_complete negated

theorem expression_complete (h : IsExpression ts e) (follow : EndsExpression s.ahead) :
    expression.run (s.before ts) = .ok e s := by
  cases h with
  | literal hvalue => exact expression_complete_literal hvalue
  | negative isMinus negated => exact expression_complete_negative isMinus negated
  | block opens balanced closes =>
    rw [expression, run_bind_of_ok run_peek]
    simp only [TokenStream.ahead_before, List.cons_append, List.head?_cons,
      Token.literal?_of_isMark opens, Token.isMark_of_isMark opens (n := .minus) nofun, opens,
      Bool.false_eq_true, if_false, if_true]
    exact run_bind_of_ok (group_complete (c := .rightBrace) rfl opens balanced closes)
  | path hpath =>
    obtain ⟨t, starts, run⟩ := run_expression_of_isValuePath (s := s) hpath []
    rw [List.append_nil] at run
    rw [run, pathOrCall_complete_path hpath starts follow]
  | call hpath opens balanced closes =>
    obtain ⟨t, starts, run⟩ := run_expression_of_isValuePath hpath _
    rw [run, pathOrCall_complete_call hpath starts opens balanced closes]

theorem expression_whole_iff :
    (∃ s', expression.run s = .ok e s' ∧ s'.ahead = []) ↔ IsExpression s.ahead e :=
  whole_iff expression_sound fun h empty => expression_complete h (by
    rw [empty]
    exact ⟨⟨rfl, rfl⟩, rfl⟩)

end Parser

end ComponentMarkup
