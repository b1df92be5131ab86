import ComponentMarkup.Proofs.Lexing.Respacing
import ComponentMarkup.Proofs.Parsing.Grammar

/-!
# Tokens in other places

What tokens are by the grammar does not depend on where they stand. Tokens of the same spelling
stand for the same tree, but for the places in it. What is kept token by token, in blocks and
arguments, is also the same text if the same tokens touch each other.

## Main definitions

* `Relaid` — tokens of the same spelling.
* `gaps` — where something stands between tokens.
* `SameText` — tokens of the same spelling with gaps at the same places.
* `Expression.Alike`, `Property.Alike` — trees that are the same but for the places.

## Main statements

* `Yields.exists_lex` — a text is lexed to its tokens, wherever these stand.
* `SameText.of_shifted` — tokens that are all moved by the same distance.
* `Grammar.IsTypePath.relaid`, `Grammar.IsDeclaration.sameText` — the tree of tokens elsewhere.
-/

namespace ComponentMarkup

/-- The same token, wherever it stands. -/
def Token.Relaid (t u : Token) : Prop := u.spelled = t.spelled

/-- The same tokens, wherever they stand. -/
abbrev Relaid : List Token → List Token → Prop := List.Forall₂ Token.Relaid

/-- Whether something stands between a token and the one behind it, for all but the last one. -/
def gaps : List Token → List Bool
  | t :: u :: ts => decide (u.start.offset ≠ t.stop.offset) :: gaps (u :: ts)
  | _ => []

/-- The same tokens, which touch each other at the same places. -/
structure SameText (ts us : List Token) : Prop where
  relaid : Relaid ts us
  gaps_eq : gaps us = gaps ts

variable {t u : Token} {ts us ts' : List Token}

namespace Token.Relaid

theorem content (h : Relaid t u) : u.content = t.content := congrArg Prod.fst h

theorem lexeme (h : Relaid t u) : u.lexeme = t.lexeme := congrArg Prod.snd h

theorem kind (h : Relaid t u) : u.kind = t.kind := by simp [Token.kind, h.content]

theorem isMark (h : Relaid t u) (m : Mark) : u.isMark m = t.isMark m := by
  simp [Token.isMark, h.content]

theorem isIdentifier (h : Relaid t u) : u.isIdentifier = t.isIdentifier := by
  simp [Token.isIdentifier, h.content]

theorem opens? (h : Relaid t u) : u.opens? = t.opens? := by
  simp [Token.opens?, Token.mark?, h.content]

theorem closes? (h : Relaid t u) : u.closes? = t.closes? := by
  simp [Token.closes?, Token.mark?, h.content]

end Token.Relaid

namespace Relaid

theorem of_spelled_eq (h : us.map Token.spelled = ts.map Token.spelled) : Relaid ts us := by
  induction ts generalizing us with
  | nil =>
    obtain rfl := List.map_eq_nil_iff.1 h
    exact .nil
  | cons t ts ih =>
    obtain ⟨u, us, rfl, first, rest⟩ := List.map_eq_cons_iff.1 h
    exact .cons first (ih rest)

theorem append_inv (h : Relaid (ts ++ us) ts') :
    ∃ vs ws, ts' = vs ++ ws ∧ Relaid ts vs ∧ Relaid us ws :=
  forall₂_append_inv h

theorem cons_inv (h : Relaid (t :: ts) ts') :
    ∃ u us, ts' = u :: us ∧ Token.Relaid t u ∧ Relaid ts us := by
  obtain ⟨u, us, first, rest, rfl⟩ := List.forall₂_cons_left_iff.1 h
  exact ⟨u, us, rfl, first, rest⟩

theorem map_lexeme (h : Relaid ts us) : us.map Token.lexeme = ts.map Token.lexeme := by
  induction h with
  | nil => rfl
  | cons first _ ih => simp [first.lexeme, ih]

theorem exists_getLast? (h : Relaid ts us) (last : u ∈ us.getLast?) :
    ∃ t ∈ ts.getLast?, Token.Relaid t u := by
  induction h with
  | nil => cases last
  | @cons a b as bs first rest ih =>
    cases rest with
    | nil =>
      cases last
      exact ⟨a, rfl, first⟩
    | cons second rest =>
      rw [List.getLast?_cons_cons] at last ⊢
      exact ih last

end Relaid

/-- A text is lexed to its tokens, in their places. -/
theorem Yields.exists_lex {s : String} (h : Yields s.toList ts) (file : String) :
    ∃ x, lex file s = .ok x ∧ Relaid ts x.tokens := by
  obtain ⟨x, lexed, same⟩ := (iff_lex file).1 h
  exact ⟨x, lexed, .of_spelled_eq same⟩

/-! ## Gaps -/

theorem tail_gaps (t : Token) (ts : List Token) : (gaps (t :: ts)).tail = gaps ts := by
  cases ts <;> rfl

/-- Tokens with the same gaps also have them in every part. -/
theorem gaps_eq_of_append {as bs as' bs' : List Token} (length : as'.length = as.length)
    (h : gaps (as' ++ bs') = gaps (as ++ bs)) : gaps as' = gaps as ∧ gaps bs' = gaps bs := by
  induction as generalizing as' with
  | nil =>
    obtain rfl := List.length_eq_zero_iff.1 length
    exact ⟨rfl, h⟩
  | cons a as ih =>
    obtain ⟨a', as', rfl⟩ := List.exists_cons_of_length_eq_add_one length
    have shorter : as'.length = as.length := by simpa using length
    have tail : gaps (as' ++ bs') = gaps (as ++ bs) := by
      have := congrArg List.tail h
      rwa [List.cons_append, List.cons_append, tail_gaps, tail_gaps] at this
    obtain ⟨left, right⟩ := ih shorter tail
    refine ⟨?_, right⟩
    cases as with
    | nil =>
      obtain rfl := List.length_eq_zero_iff.1 shorter
      rfl
    | cons b as =>
      obtain ⟨b', as', rfl⟩ := List.exists_cons_of_length_eq_add_one shorter
      simp only [List.cons_append, gaps, List.cons.injEq] at h ⊢
      exact ⟨h.1, left⟩

namespace SameText

theorem symm (h : SameText ts us) : SameText us ts :=
  ⟨h.relaid.flip.imp fun _ _ same => Eq.symm same, h.gaps_eq.symm⟩

theorem cons_inv (h : SameText (t :: ts) ts') :
    ∃ u us, ts' = u :: us ∧ Token.Relaid t u ∧ SameText ts us := by
  obtain ⟨u, us, rfl, first, rest⟩ := h.relaid.cons_inv
  have tail := congrArg List.tail h.gaps_eq
  rw [tail_gaps, tail_gaps] at tail
  exact ⟨u, us, rfl, first, rest, tail⟩

theorem tail (h : SameText (t :: ts) (u :: us)) : SameText ts us := by
  obtain ⟨_, _, ⟨⟩, -, rest⟩ := h.cons_inv
  exact rest

theorem append_inv (h : SameText (ts ++ us) ts') :
    ∃ vs ws, ts' = vs ++ ws ∧ SameText ts vs ∧ SameText us ws := by
  obtain ⟨vs, ws, rfl, left, right⟩ := h.relaid.append_inv
  obtain ⟨before, behind⟩ := gaps_eq_of_append left.length_eq.symm h.gaps_eq
  exact ⟨vs, ws, rfl, ⟨left, before⟩, ⟨right, behind⟩⟩

/-- Tokens that are all moved by the same distance touch each other as before. -/
theorem of_shifted {d : Nat} (h : List.Forall₂ (Token.Shifted d) ts us) : SameText ts us := by
  refine ⟨h.imp fun _ _ shifted => shifted.spelled, ?_⟩
  induction h with
  | nil => rfl
  | @cons t t' ts us first rest ih =>
    cases rest with
    | nil => rfl
    | @cons u u' ts us second rest =>
      have touch : u'.start.offset = t'.stop.offset ↔ u.start.offset = t.stop.offset := by
        rw [second.offset, first.stop]
        omega
      simp only [gaps, touch, ne_eq, ih]

end SameText

/-! ## Trees -/

theorem Balanced.relaid (h : Balanced ts) (same : Relaid ts us) : Balanced us := by
  induction h generalizing us with
  | nil =>
    cases same
    exact .nil
  | other opens closes _ ih =>
    obtain ⟨u, us, rfl, first, rest⟩ := same.cons_inv
    exact .other (first.opens?.trans opens) (first.closes?.trans closes) (ih rest)
  | group opens _ closes _ ihInside ihRest =>
    obtain ⟨vs, ws, rfl, left, right⟩ := same.append_inv
    obtain ⟨opener, inside, rfl, first, inner⟩ := left.cons_inv
    obtain ⟨closer, rest, rfl, last, behind⟩ := right.cons_inv
    exact .group (first.opens?.trans opens) (ihInside inner) (last.closes?.trans closes)
      (ihRest behind)

/-- The same expression in another place. -/
inductive Expression.Alike : Expression → Expression → Prop where
  | literal (value : Value) (span span' : Source.Span) :
      Alike (.literal value span) (.literal value span')
  | path {p q : ValuePath} : q.text = p.text → Alike (.path p) (.path q)
  | call {p q : ValuePath} {ts us : List Token} (span span' : Source.Span) :
      q.text = p.text → SameText ts us → Alike (.call p ts span) (.call q us span')
  | block {ts us : List Token} (span span' : Source.Span) :
      SameText ts us → Alike (.block ts span) (.block us span')

/-- The same label in another place. -/
structure Label.Alike (l m : Label) : Prop where
  text : m.text = l.text
  isPlain : m.isPlain = l.isPlain

/-- The same property in another place. -/
structure Property.Alike (p q : Property) : Prop where
  label : p.label.Alike q.label
  value : p.value.Alike q.value

theorem Label.Alike.of_relaid {name name' : Token} {more more' : List Token}
    {span span' : Source.Span} (first : name.Relaid name') (rest : Relaid more more') :
    Label.Alike ⟨name, more, span⟩ ⟨name', more', span'⟩ where
  text := by simp [Label.text, first.lexeme, rest.map_lexeme]
  isPlain := by cases rest <;> rfl

theorem Property.Alike.key {p q : Property} (h : p.Alike q) : q.key = p.key := h.label.text

namespace Grammar

theorem Repeated.relaid {α : Type} {G : List Token → α → Prop} {S : α → α → Prop} {as : List α}
    (h : Repeated G ts as) (same : Relaid ts us)
    (step : ∀ {ts a us}, G ts a → Relaid ts us → ∃ b, G us b ∧ S a b) :
    ∃ bs, Repeated G us bs ∧ List.Forall₂ S as bs := by
  induction h generalizing us with
  | nil =>
    cases same
    exact ⟨[], .nil, .nil⟩
  | cons first _ ih =>
    obtain ⟨vs, ws, rfl, left, right⟩ := same.append_inv
    obtain ⟨b, isB, likeFirst⟩ := step first left
    obtain ⟨bs, areBs, likeRest⟩ := ih right
    exact ⟨b :: bs, .cons isB areBs, .cons likeFirst likeRest⟩

theorem IsOptional.relaid {m : Mark} (h : IsOptional m ts) (same : Relaid ts us) :
    IsOptional m us := by
  cases h with
  | absent =>
    cases same
    exact .absent
  | present is =>
    obtain ⟨u, us, rfl, first, rest⟩ := same.cons_inv
    cases rest
    exact .present ((first.isMark _).trans is)

theorem IsLeading.relaid {leading : Bool} (h : IsLeading ts leading) (same : Relaid ts us) :
    IsLeading us leading := by
  cases h with
  | absent =>
    cases same
    exact .absent
  | present a b =>
    obtain ⟨u, us, rfl, first, rest⟩ := same.cons_inv
    obtain ⟨v, vs, rfl, second, rest⟩ := rest.cons_inv
    cases rest
    exact .present ((first.isMark _).trans a) ((second.isMark _).trans b)

theorem IsTypeSegment.relaid (h : IsTypeSegment ts t) (same : Relaid ts us) :
    ∃ u, IsTypeSegment us u ∧ Token.Relaid t u := by
  cases h with
  | colons a b name =>
    obtain ⟨u, us, rfl, first, rest⟩ := same.cons_inv
    obtain ⟨v, vs, rfl, second, rest⟩ := rest.cons_inv
    obtain ⟨w, ws, rfl, third, rest⟩ := rest.cons_inv
    cases rest
    exact ⟨w, .colons ((first.isMark _).trans a) ((second.isMark _).trans b)
      (third.isIdentifier.trans name), third⟩

theorem IsTypePath.relaid_parts {p : TypePath} (h : IsTypePath ts p) (same : Relaid ts us) :
    ∃ q, IsTypePath us q ∧ q.leadingColons = p.leadingColons ∧ q.segments = p.segments := by
  obtain @⟨cs, ss, leading, first, more, leads, isFirst, repeated⟩ := h
  obtain ⟨cs', vs, rfl, left, right⟩ := same.append_inv
  obtain ⟨first', ss', rfl, head, tail⟩ := right.cons_inv
  obtain ⟨more', repeated', names⟩ := repeated.relaid tail IsTypeSegment.relaid
  refine ⟨_, .mk (leads.relaid left) (head.isIdentifier.trans isFirst) repeated', rfl, ?_⟩
  simp [TypePath.segments, TypePath.names, head.lexeme, Relaid.map_lexeme names]

theorem IsTypePath.relaid {p : TypePath} (h : IsTypePath ts p) (same : Relaid ts us) :
    ∃ q, IsTypePath us q ∧ q.text = p.text := by
  obtain ⟨q, isPath, leading, segments⟩ := h.relaid_parts same
  exact ⟨q, isPath, by rw [TypePath.text, leading, segments, TypePath.text]⟩

theorem IsPathSegment.relaid {segment : Separator × Token} (h : IsPathSegment ts segment)
    (same : Relaid ts us) :
    ∃ u, IsPathSegment us u ∧ u.1 = segment.1 ∧ segment.2.Relaid u.2 := by
  cases h with
  | colons a b name =>
    obtain ⟨u, us, rfl, first, rest⟩ := same.cons_inv
    obtain ⟨v, vs, rfl, second, rest⟩ := rest.cons_inv
    obtain ⟨w, ws, rfl, third, rest⟩ := rest.cons_inv
    cases rest
    exact ⟨_, .colons ((first.isMark _).trans a) ((second.isMark _).trans b)
      (third.isIdentifier.trans name), rfl, third⟩
  | dot point name =>
    obtain ⟨u, us, rfl, first, rest⟩ := same.cons_inv
    obtain ⟨v, vs, rfl, second, rest⟩ := rest.cons_inv
    cases rest
    exact ⟨_, .dot ((first.isMark _).trans point) (second.isIdentifier.trans name), rfl,
      second⟩

theorem map_lexeme_of_alike {more more' : List (Separator × Token)}
    (h : List.Forall₂ (fun s u => u.1 = s.1 ∧ s.2.Relaid u.2) more more') :
    more'.map (fun s => (s.1, s.2.lexeme)) = more.map (fun s => (s.1, s.2.lexeme)) := by
  induction h with
  | nil => rfl
  | cons first _ ih => simp [first.1, first.2.lexeme, ih]

theorem IsValuePath.relaid_parts {p : ValuePath} (h : IsValuePath ts p) (same : Relaid ts us) :
    ∃ q, IsValuePath us q ∧ q.leadingColons = p.leadingColons ∧ q.first = p.first ∧
      q.more = p.more := by
  obtain @⟨cs, ss, leading, first, more, leads, isFirst, repeated⟩ := h
  obtain ⟨cs', vs, rfl, left, right⟩ := same.append_inv
  obtain ⟨first', ss', rfl, head, tail⟩ := right.cons_inv
  obtain ⟨more', repeated', names⟩ := repeated.relaid tail IsPathSegment.relaid
  exact ⟨_, .mk (leads.relaid left) (head.isIdentifier.trans isFirst) repeated', rfl, head.lexeme,
    map_lexeme_of_alike names⟩

theorem IsValuePath.relaid {p : ValuePath} (h : IsValuePath ts p) (same : Relaid ts us) :
    ∃ q, IsValuePath us q ∧ q.text = p.text := by
  obtain ⟨q, isPath, leading, first, more⟩ := h.relaid_parts same
  exact ⟨q, isPath, by rw [ValuePath.text, leading, first, more, ValuePath.text]⟩

theorem IsExpression.sameText {e : Expression} (h : IsExpression ts e) (same : SameText ts us) :
    ∃ f, IsExpression us f ∧ e.Alike f := by
  cases h with
  | literal hvalue =>
    obtain ⟨u, us, rfl, first, rest⟩ := same.cons_inv
    cases rest.relaid
    exact ⟨_, .literal (by rw [first.content, hvalue]), .literal ..⟩
  | negative isMinus negated =>
    obtain ⟨minus, us, rfl, first, rest⟩ := same.cons_inv
    obtain ⟨number, vs, rfl, second, rest⟩ := rest.cons_inv
    cases rest.relaid
    rw [← second.content] at negated
    exact ⟨_, .negative ((first.isMark _).trans isMinus) negated, .literal ..⟩
  | block opens balanced closes =>
    obtain ⟨opener, us, rfl, first, rest⟩ := same.cons_inv
    obtain ⟨inside, vs, rfl, inner, behind⟩ := rest.append_inv
    obtain ⟨closer, ws, rfl, last, nothing⟩ := behind.cons_inv
    cases nothing.relaid
    exact ⟨_, .block ((first.isMark _).trans opens) (balanced.relaid inner.relaid)
      ((last.isMark _).trans closes), .block _ _ inner⟩
  | path isPath =>
    obtain ⟨q, isPath', text⟩ := isPath.relaid same.relaid
    exact ⟨_, .path isPath', .path text⟩
  | call isPath opens balanced closes =>
    obtain ⟨vs, ws, rfl, left, right⟩ := same.append_inv
    obtain ⟨q, isPath', text⟩ := isPath.relaid left.relaid
    obtain ⟨opener, us, rfl, first, rest⟩ := right.cons_inv
    obtain ⟨inside, vs, rfl, inner, behind⟩ := rest.append_inv
    obtain ⟨closer, ws, rfl, last, nothing⟩ := behind.cons_inv
    cases nothing.relaid
    exact ⟨_, .call isPath' ((first.isMark _).trans opens) (balanced.relaid inner.relaid)
      ((last.isMark _).trans closes), .call _ _ text inner⟩

theorem IsExtension.relaid (h : IsExtension ts t) (same : Relaid ts us) :
    ∃ u, IsExtension us u ∧ Token.Relaid t u := by
  cases h with
  | dash dash name =>
    obtain ⟨u, us, rfl, first, rest⟩ := same.cons_inv
    obtain ⟨v, vs, rfl, second, rest⟩ := rest.cons_inv
    cases rest
    exact ⟨v, .dash ((first.isMark _).trans dash) (second.isIdentifier.trans name), second⟩

theorem IsLabel.relaid {l : Label} (h : IsLabel ts l) (same : Relaid ts us) :
    ∃ m, IsLabel us m ∧ l.Alike m := by
  obtain @⟨ds, name, more, isName, repeated⟩ := h
  obtain ⟨name', ds', rfl, first, rest⟩ := same.cons_inv
  obtain ⟨more', repeated', names⟩ := repeated.relaid rest IsExtension.relaid
  refine ⟨_, .mk (first.isIdentifier.trans isName) repeated', .of_relaid first names⟩

theorem IsDeclaration.sameText {p : Property} (h : IsDeclaration ts p) (same : SameText ts us) :
    ∃ q, IsDeclaration us q ∧ p.Alike q := by
  obtain @⟨ls, es, comma, label, assign, e, isLabel, isAssign, isExpression, isComma⟩ := h
  obtain ⟨ls', us, rfl, left, right⟩ := same.append_inv
  obtain ⟨assign', us, rfl, middle, rest⟩ := right.cons_inv
  obtain ⟨es', comma', rfl, value, behind⟩ := rest.append_inv
  obtain ⟨label', isLabel', sameLabel⟩ := isLabel.relaid left.relaid
  obtain ⟨e', isExpression', sameValue⟩ := isExpression.sameText value
  exact ⟨_, .mk isLabel' ((middle.isMark _).trans isAssign) isExpression'
    (isComma.relaid behind.relaid), sameLabel, sameValue⟩

end Grammar

end ComponentMarkup
