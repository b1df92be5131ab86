import ComponentMarkup.Proofs.Compilation.Emission
import ComponentMarkup.Proofs.Construction.Rendering
import ComponentMarkup.Proofs.Lexing.Positions
import ComponentMarkup.Proofs.Parsing.Spans

/-!
# What spans say of the source

The spans of a tag are places in the source that the tag was read from. They lie as the nodes do,
and the text under the span of a value is the value.

## Main definitions

* `ComponentTag.IsFaithful` — the spans of a tag say what is in the source.

## Main statements

* `Grammar.IsExpression.exists_rereading` — a value is read from its own text.
* `Parser.isFaithful_of_component` — the spans of a tag that is read.
-/

namespace ComponentMarkup

open Source (Span)

/-- The spans of a tag say what is in its source. -/
structure ComponentTag.IsFaithful (source : List Char) (x : Lexing) (c : ComponentTag) : Prop where
  nested : ∀ parent n, (some parent, n) ∈ (Node.component c).walk → n.span.IsWithin parent.span
  path_before : ∀ spec ∈ c.properties, c.typePath.span.stop.offset ≤ spec.span.start.offset
  apart : c.declared.Pairwise fun p q => p.span.IsApart q.span
  /-- The text under the span of a value is lexed without errors of its own and read as a value that
  is rendered in the same way, with nothing left of the text. -/
  reread : ∀ p ∈ c.declared, ∀ file, ∃ y e s,
    Lexing.ofSource file (p.value.span.slice source) = .ok y ∧ (x.errors = [] → y.errors = []) ∧
      Parser.expression.run (.ofLexing y) = .ok e s ∧ s.ahead = [] ∧
      e.render = p.value.render

namespace Grammar

variable {config : Config} {span : Span} {ts : List Token}

theorem IsInterior.pairwise_isApart {c : ComponentTag} (h : IsInterior config span ts c)
    (order : InOrder ts) : c.declared.Pairwise fun p q => p.span.IsApart q.span := by
  obtain @⟨path, colon, ts, p, spec, -, -, isSpec⟩ := h
  have order' := order.of_infix (List.suffix_append (path ++ colon) ts).isInfix
  cases isSpec with
  | none | delegate => exact .nil
  | list repeated => exact pairwise_isApart_kept repeated.declarations order' _

/-- The same expression is read from its own text. -/
theorem IsExpression.exists_rereading {e : Expression} (h : IsExpression ts e) {file : String}
    {source : List Char} {x : Lexing} (lexed : Lexing.ofSource file source = .ok x)
    (inside : ts <:+: x.tokens) (file' : String) :
    ∃ y e' s, Lexing.ofSource file' (e.span.slice source) = .ok y ∧
      (x.errors = [] → y.errors = []) ∧
      Parser.expression.run (.ofLexing y) = .ok e' s ∧ s.ahead = [] ∧ e.Alike e' := by
  obtain ⟨y, again, shifted, clean⟩ := Lexing.exists_ofSource_slice lexed inside h.covers file'
  obtain ⟨e', isExpression, alike⟩ := h.sameText (SameText.of_shifted shifted).symm
  obtain ⟨s, run, done⟩ := (Parser.expression_whole_iff (s := .ofLexing y)).2 isExpression
  exact ⟨y, e', s, again, clean, run, done, alike⟩

end Grammar

/-- The spans of a tag that is read from some of the tokens of a source say what is in the source,
whatever errors there are in other places. -/
theorem Parser.isFaithful_of_component {file : String} {source : List Char} {x : Lexing}
    (lexed : Lexing.ofSource file source = .ok x) {config : Config} {s s' : TokenStream}
    (inside : s.ahead <:+: x.tokens) {c : ComponentTag} {ws : List Warning}
    (run : (component config).run s = .ok (c, ws) s') : c.IsFaithful source x := by
  obtain ⟨opener, slash, closer, ts, inner, -, -, -, ahead, read⟩ := component_sound run
  have isInterior := interior_sound read
  have inTag : opener :: (ts ++ [slash, closer]) <:+: x.tokens := by
    refine .trans ⟨[], s'.ahead, ?_⟩ inside
    simp [ahead]
  have inInterior : ts <:+: opener :: (ts ++ [slash, closer]) := ⟨[opener], [slash, closer], rfl⟩
  have covers : (opener.spanTo closer).Covers (opener :: (ts ++ [slash, closer])) :=
    Span.covers_spanTo rfl (by simp [List.getLast?_cons])
  have order : InOrder x.tokens := by
    obtain ⟨ps, -, rfl⟩ := map_eq_ok.1 lexed
    exact Lexing.pairwise_tokens _ ps
  have orderTag := order.of_infix inTag
  have orderInterior := orderTag.of_infix inInterior
  refine ⟨fun parent n mem => ?_, isInterior.stop_le_start orderInterior,
    isInterior.pairwise_isApart orderInterior, fun p hp file' => ?_⟩
  · exact (isInterior.nested covers orderTag inInterior).isWithin_of_mem_walk mem
  · obtain ⟨us, isProperty, inside⟩ := isInterior.exists_property hp
    obtain ⟨vs, isExpression, inProperty⟩ := isProperty.exists_expression
    have inSource := inProperty.trans (inside.trans (inInterior.trans inTag))
    obtain ⟨y, e, s, again, clean, run, done, alike⟩ :=
      isExpression.exists_rereading lexed inSource file'
    exact ⟨y, e, s, again, clean, run, done, alike.render_eq⟩

/-- Two values that touch what stands behind them, one with a comment in it. -/
theorem Parser.isFaithful_of_component_calls :
    ∃ x c ws s, Lexing.ofSource "m" "<A b=f(/*,*/x)c=-2/>".toList = .ok x ∧
      (component .standard).run (.ofLexing x) = .ok (c, ws) s ∧
      c.IsFaithful "<A b=f(/*,*/x)c=-2/>".toList x := by
  have isRead : (match Lexing.ofSource "m" "<A b=f(/*,*/x)c=-2/>".toList with
      | .ok x => ((component .standard).run (.ofLexing x) matches .ok ..)
      | .error _ => false) = true := by decide +kernel
  cases lexed : Lexing.ofSource "m" "<A b=f(/*,*/x)c=-2/>".toList with
  | error a =>
    rw [lexed] at isRead
    cases isRead
  | ok x =>
    rw [lexed] at isRead
    cases run : (component .standard).run (.ofLexing x) with
    | error f s =>
      simp only [run] at isRead
      cases isRead
    | ok r s =>
      exact ⟨x, r.1, r.2, s, rfl, run, isFaithful_of_component lexed (List.infix_refl _) run⟩

end ComponentMarkup
