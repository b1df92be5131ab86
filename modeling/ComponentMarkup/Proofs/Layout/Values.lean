import ComponentMarkup.Proofs.Layout.Groups
import ComponentMarkup.Proofs.Parsing.Expressions

/-!
# Paths and values with another layout

A path is read without a look at the layout. A block, and the arguments of a call, are kept with
their layout, and there it is the same.

## Main statements

* `Parser.typePath_alike`, `Parser.valuePath_alike` — paths.
* `Parser.expression_alike` — a value behind `=`.
-/

namespace ComponentMarkup

open Grammar Lookahead

namespace Lookahead

variable {ts us : List Token}

theorem mark?_alike (m : Mark) (h : Respaced ts us) :
    Option.Rel Respaced (mark? m ts) (mark? m us) := by
  rcases h.cases with ⟨rfl, rfl⟩ | ⟨t, ts, u, us, rfl, rfl, first, rest⟩
  · exact .none
  · simp only [mark?, first.isMark]
    split
    · exact .some rest
    · exact .none

theorem doubleColon?_alike (h : Respaced ts us) :
    Option.Rel Respaced (doubleColon? ts) (doubleColon? us) := by
  have first := mark?_alike .colon h
  unfold doubleColon?
  generalize mark? .colon ts = found, mark? .colon us = found' at first ⊢
  cases first with
  | none => exact .none
  | some rest => exact mark?_alike .colon rest

end Lookahead

namespace Parser

variable {s s' : TokenStream} {t u start start' : Token}

/-! ## Type paths -/

theorem doubleColon_alike (h : s.Respaced s') :
    Alike (fun leading leading' => leading' = leading) (doubleColon.run s)
      (doubleColon.run s') := by
  rw [doubleColon, run_bind_of_ok run_ahead, run_bind_of_ok run_ahead]
  have colons := doubleColon?_alike h.ahead
  generalize doubleColon? s.ahead = found, doubleColon? s'.ahead = found' at colons ⊢
  cases colons with
  | none => exact .ok rfl h
  | some rest => exact .ok rfl ⟨rest, h.warnings⟩

theorem typeSegment_alike (h : s.Respaced s') :
    Alike (Option.Rel Token.Relaid) (typeSegment.run s) (typeSegment.run s') := by
  refine (doubleColon_alike h).bind fun leading leading' _ _ _ _ same h => ?_
  subst same
  split
  case isTrue =>
    exact (consume_alike .identifier _ h).bind fun _ _ _ _ _ _ name h => .ok (.some name) h
  case isFalse => exact .ok .none h

theorem typePath_alike (h : s.Respaced s') :
    Alike (fun p q => q.text = p.text) (typePath.run s) (typePath.run s') := by
  rw [typePath, run_bind_of_ok run_peek, run_bind_of_ok run_peek]
  refine (doubleColon_alike h).bind fun leading leading' _ _ _ _ same h => ?_
  refine (consume_alike .identifier _ h).bind fun first first' _ _ _ _ isFirst h => ?_
  refine (many_alike typeSegment_alike h).bind fun more more' _ _ _ _ names h => .ok ?_ h
  simp only [TypePath.text, TypePath.segments, TypePath.names, List.map_cons, same, isFirst.lexeme,
    Relaid.map_lexeme names]

/-! ## Value paths -/

theorem pathSegment_alike (h : s.Respaced s') :
    Alike (Option.Rel fun x y => y.1 = x.1 ∧ x.2.Relaid y.2) (pathSegment.run s)
      (pathSegment.run s') := by
  rw [pathSegment, run_bind_of_ok run_ahead, run_bind_of_ok run_ahead]
  rcases h.ahead.cases with ⟨ahead, ahead'⟩ | ⟨t, ts, u, us, ahead, ahead', first, rest⟩
  · rw [ahead, ahead']
    exact .ok .none h
  · have colon : us.head?.any (·.isMark .colon) = ts.head?.any (·.isMark .colon) :=
      rest.any_head? fun same => same.isMark .colon
    simp only [ahead, ahead', first.isMark, colon, List.drop_one]
    split
    case isTrue =>
      exact (seek_alike rest h).bind fun _ _ _ _ _ _ _ h =>
        (consume_alike .identifier _ h).bind fun _ _ _ _ _ _ name h => .ok (.some ⟨rfl, name⟩) h
    split
    case isTrue =>
      exact (seek_alike rest.tail h).bind fun _ _ _ _ _ _ _ h =>
        (consume_alike .identifier _ h).bind fun _ _ _ _ _ _ name h => .ok (.some ⟨rfl, name⟩) h
    case isFalse => exact .ok .none h

theorem leadingColons_alike (h : s.Respaced s') :
    Alike (fun leading leading' => leading' = leading) (leadingColons.run s)
      (leadingColons.run s') := by
  rw [leadingColons, run_bind_of_ok (run_check _), run_bind_of_ok (run_check _),
    h.ahead.any_head? fun same => by rw [same.kind]]
  split
  case isTrue =>
    exact (consume_alike (.mark .colon) _ h).bind fun _ _ _ _ _ _ _ h =>
      (consume_alike (.mark .colon) _ h).bind fun _ _ _ _ _ _ _ h => .ok rfl h
  case isFalse => exact .ok rfl h

theorem valuePath_alike (h : s.Respaced s') :
    Alike (fun p q => q.text = p.text) ((valuePath start).run s) ((valuePath start').run s') := by
  refine (leadingColons_alike h).bind fun leading leading' _ _ _ _ same h => ?_
  refine (consume_alike .identifier _ h).bind fun first first' _ _ _ _ isFirst h => ?_
  refine (many_alike pathSegment_alike h).bind fun more more' _ _ _ _ names h => .ok ?_ h
  unfold ValuePath.text
  simp only [same, isFirst.lexeme, map_lexeme_of_alike names]

/-! ## Values -/

theorem negativeNumber_alike (h : s.Respaced s') :
    Alike Expression.Alike (negativeNumber.run s) (negativeNumber.run s') := by
  refine (advance_alike h).bind fun minus minus' s₁ s₁' _ _ _ h => ?_
  rw [run_bind_of_ok run_peek, run_bind_of_ok run_peek]
  rcases h.ahead.cases with ⟨ahead, ahead'⟩ | ⟨t, ts, u, us, ahead, ahead', first, rest⟩
  · rw [ahead, ahead']
    exact unexpectedEnd_alike ..
  · simp only [ahead, ahead', List.head?_cons, first.content]
    split
    case h_1 => exact .rejected (ParseError.unexpectedToken_alike _ first)
    case h_2 value _ =>
      exact (advance_alike h).bind fun _ _ _ _ _ _ _ h => .ok (.literal value _ _) h

variable {assign assign' : Token}

theorem block_alike (h : s.Respaced s')
    (behind : Respaced (assign :: s.ahead) (assign' :: s'.ahead))
    (isAssign : assign.isMark .assign = true)
    (starts : s.ahead.head?.any (·.isMark .leftBrace) = true) :
    Alike Expression.Alike (block.run s) (block.run s') := by
  refine (group_alike h).bind fun g g' s₁ s₁' run run' alike h => .ok (.block _ _ ?_) h
  obtain ⟨opens, balanced, closes, rfl⟩ := group_sound (c := .rightBrace) rfl run starts
  obtain ⟨rfl, -⟩ := group_eq_ok_iff.1 run'
  have isKept : IsKept ([] ++ [assign, g.opener]) g.inside (g.closer :: s₁.ahead) :=
    .block isAssign opens balanced closes
  have split : assign :: (s₁.before g.tokens).ahead =
      [] ++ [assign, g.opener] ++ g.inside ++ (g.closer :: s₁.ahead) := by simp [Group.tokens]
  have split' : assign' :: (s₁'.before g'.tokens).ahead =
      [assign', g'.opener] ++ g'.inside ++ (g'.closer :: s₁'.ahead) := by simp [Group.tokens]
  exact behind.sameText split split' rfl alike.inside isKept

theorem pathOrCall_alike (h : s.Respaced s')
    (behind : Respaced (assign :: s.ahead) (assign' :: s'.ahead))
    (isAssign : assign.isMark .assign = true) (starts : s.ahead.head? = some start)
    (starts' : s'.ahead.head? = some start') :
    Alike Expression.Alike ((pathOrCall start).run s) ((pathOrCall start').run s') := by
  refine (valuePath_alike h).bind fun p p' s₁ s₁' hp hp' text h₁ => ?_
  rw [run_bind_of_ok (run_check _), run_bind_of_ok (run_check _),
    h₁.ahead.any_head? fun same => by rw [same.kind]]
  split
  case isFalse => exact .ok (.path text) h₁
  case isTrue calls =>
    simp only [Token.kind_eq_mark, Bool.decide_eq_true] at calls
    refine (group_alike h₁).bind fun g g' s₂ s₂' run run' alike h₂ => .ok (.call _ _ text ?_) h₂
    obtain ⟨path, isPath, rfl⟩ := valuePath_sound hp starts
    obtain ⟨path', -, rfl⟩ := valuePath_sound hp' starts'
    obtain ⟨opens, balanced, closes, rfl⟩ := group_sound (c := .rightParen) rfl run calls
    obtain ⟨rfl, -⟩ := group_eq_ok_iff.1 run'
    have isKept : IsKept ([] ++ assign :: (path ++ [g.opener])) g.inside (g.closer :: s₂.ahead) :=
      .arguments isAssign isPath opens balanced closes
    have split : assign :: ((s₂.before g.tokens).before path).ahead =
        [] ++ assign :: (path ++ [g.opener]) ++ g.inside ++ (g.closer :: s₂.ahead) := by
      simp [Group.tokens]
    have split' : assign' :: ((s₂'.before g'.tokens).before path').ahead =
        assign' :: (path' ++ [g'.opener]) ++ g'.inside ++ (g'.closer :: s₂'.ahead) := by
      simp [Group.tokens]
    -- Behind the paths the streams are equally long, so the paths are.
    have length : path'.length = path.length := by
      have whole := h.ahead.relaid.length_eq
      have left := h₁.ahead.relaid.length_eq
      simp only [TokenStream.ahead_before, List.length_append] at whole left
      omega
    exact behind.sameText split split' (by simp [length]) alike.inside isKept

theorem expression_alike (h : s.Respaced s')
    (behind : Respaced (assign :: s.ahead) (assign' :: s'.ahead))
    (isAssign : assign.isMark .assign = true) :
    Alike Expression.Alike (expression.run s) (expression.run s') := by
  rw [expression, run_bind_of_ok run_peek, run_bind_of_ok run_peek]
  rcases h.ahead.cases with ⟨ahead, ahead'⟩ | ⟨t, ts, u, us, ahead, ahead', first, rest⟩
  · rw [ahead, ahead']
    exact unexpectedEnd_alike ..
  · have starts : s.ahead.head? = some t := by rw [ahead, List.head?_cons]
    have starts' : s'.ahead.head? = some u := by rw [ahead', List.head?_cons]
    simp only [starts, starts', first.content, first.isMark, first.isIdentifier]
    split
    case h_1 value _ =>
      exact (advance_alike h).bind fun _ _ _ _ _ _ _ h => .ok (.literal value _ _) h
    case h_2 =>
      split
      case isTrue => exact negativeNumber_alike h
      split
      case isTrue isBrace => exact block_alike h behind isAssign (by simp [starts, isBrace])
      split
      case isTrue => exact pathOrCall_alike h behind isAssign starts starts'
      case isFalse => exact .rejected (ParseError.unexpectedToken_alike _ first)

end Parser

end ComponentMarkup
