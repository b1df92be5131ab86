import ComponentMarkup.Construction.Render
import ComponentMarkup.Proofs.Construction.Conversions
import ComponentMarkup.Proofs.Parsing.Relaid

/-!
# Rendering in another place

The text of an expression shows which of its tokens touch each other, but not where they stand. So
an expression is rendered and converted the same way wherever it stands.

## Main statements

* `renderTokens_of_sameText` — tokens that touch each other at the same places have the same text.
* `Expression.Alike.render_eq`, `Expression.Alike.resolve_eq` — expressions that are the same but
  for their places are rendered the same, and converted the same way.
-/

namespace ComponentMarkup

variable {t u : Token} {ts us : List Token}

theorem Token.Relaid.render (h : Relaid t u) : u.render = t.render := by
  simp [Token.render, h.content, h.lexeme]

/-- Whether a space is due in front of a token is told by the gap there. -/
theorem SameText.touch_iff {a b : Token} (h : SameText (t :: a :: ts) (u :: b :: us)) :
    b.start.offset = u.stop.offset ↔ a.start.offset = t.stop.offset := by
  have gaps := h.gaps_eq
  simp only [ComponentMarkup.gaps, List.cons.injEq, decide_eq_decide] at gaps
  exact not_iff_not.1 gaps.1

namespace RenderedPiece

/-- The text of tokens behind the tokens `t` and `u`. -/
theorem joinAfter_ofTokens (h : SameText (t :: ts) (u :: us)) :
    joinAfter u.stop.offset (ofTokens us) = joinAfter t.stop.offset (ofTokens ts) := by
  fun_induction ofTokens ts generalizing t u us with
  | case1 a b ts both ih =>
    obtain ⟨a', vs, rfl, first, behind⟩ := h.tail.cons_inv
    obtain ⟨b', us, rfl, second, -⟩ := behind.cons_inv
    rw [← first.isMark, ← second.isMark] at both
    rw [ofTokens, if_pos both]
    simp only [joinAfter, h.touch_iff, ih behind]
  | case2 a b ts single ih =>
    obtain ⟨a', vs, rfl, first, behind⟩ := h.tail.cons_inv
    obtain ⟨b', us, rfl, second, -⟩ := behind.cons_inv
    rw [← first.isMark, ← second.isMark] at single
    rw [ofTokens, if_neg single]
    simp only [joinAfter, h.touch_iff, first.render, ih h.tail]
  | case3 a =>
    obtain ⟨a', vs, rfl, first, nothing⟩ := h.tail.cons_inv
    cases nothing.relaid
    simp only [ofTokens, joinAfter, h.touch_iff, first.render]
  | case4 =>
    cases h.tail.relaid
    rfl

end RenderedPiece

theorem renderTokens_of_sameText (h : SameText ts us) : renderTokens us = renderTokens ts := by
  unfold renderTokens
  fun_cases RenderedPiece.ofTokens ts with
  | case1 a b ts both =>
    obtain ⟨a', vs, rfl, first, behind⟩ := h.cons_inv
    obtain ⟨b', us, rfl, second, -⟩ := behind.cons_inv
    rw [← first.isMark, ← second.isMark] at both
    rw [RenderedPiece.ofTokens, if_pos both]
    simp only [RenderedPiece.join, RenderedPiece.joinAfter_ofTokens behind]
  | case2 a b ts single =>
    obtain ⟨a', vs, rfl, first, behind⟩ := h.cons_inv
    obtain ⟨b', us, rfl, second, -⟩ := behind.cons_inv
    rw [← first.isMark, ← second.isMark] at single
    rw [RenderedPiece.ofTokens, if_neg single]
    simp only [RenderedPiece.join, first.render, RenderedPiece.joinAfter_ofTokens h]
  | case3 a =>
    obtain ⟨a', vs, rfl, first, nothing⟩ := h.cons_inv
    cases nothing.relaid
    simp only [RenderedPiece.ofTokens, RenderedPiece.join, first.render, RenderedPiece.joinAfter]
  | case4 =>
    cases h.relaid
    rfl

namespace Expression.Alike

variable {e f : Expression}

theorem render_eq (h : e.Alike f) : f.render = e.render := by
  cases h with
  | literal => rfl
  | path same => simp only [render, same]
  | call _ _ same inside => simp only [render, same, renderTokens_of_sameText inside]
  | block _ _ inside => simp only [render, renderTokens_of_sameText inside]

theorem plain_eq (h : e.Alike f) (t : FieldType) : Conversion.plain f t = Conversion.plain e t := by
  cases h <;> rfl

theorem resolve_eq (h : e.Alike f) (t : FieldType) :
    Conversion.resolve f t = Conversion.resolve e t := by
  fun_induction Conversion.resolve e t with
  | case1 name inner isOption ih => rw [Conversion.resolve, if_pos isOption, ih]
  | case2 name inner notOption => rw [Conversion.resolve, if_neg notOption, h.plain_eq]
  | case3 t noInner => rw [Conversion.resolve.eq_2 _ _ noInner, h.plain_eq]

end Expression.Alike

end ComponentMarkup
