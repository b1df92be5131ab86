import ComponentMarkup.Proofs.Parsing.Relaid
import ComponentMarkup.Proofs.Parsing.Runs

/-!
# Streams with another layout

Two streams of the same tokens, which touch each other at the same places wherever they are kept
token by token. All parsers do the same on both of them, but for the places in what comes out.

## Main definitions

* `IsKept` — tokens in a block or in the arguments of a call.
* `Respaced` — the same tokens, which touch each other at the same places where they are kept.
* `ParseError.Alike`, `Failure.Alike` — failures that are the same but for the places.
* `Parser.Alike` — outcomes that are the same but for the places.

## Main statements

* `Respaced.append_inv` — every part of such tokens is such tokens.
* `Parser.Alike.bind`, `Parser.many_alike` — parsers one after the other, and repetition.
-/

namespace ComponentMarkup

open Grammar

/-! ## Layouts -/

/-- Tokens in a block or in the arguments of a call, which is a value: it stands behind `=`. With
the tokens in front of them and behind them, brackets included. -/
inductive IsKept : (before inside after : List Token) → Prop where
  | block {before inside after : List Token} {assign opener closer : Token} :
      assign.isMark .assign = true → opener.isMark .leftBrace = true → Balanced inside →
      closer.isMark .rightBrace = true →
      IsKept (before ++ [assign, opener]) inside (closer :: after)
  | arguments {before path inside after : List Token} {assign opener closer : Token}
      {callee : ValuePath} :
      assign.isMark .assign = true → IsValuePath path callee → opener.isMark .leftParen = true →
      Balanced inside → closer.isMark .rightParen = true →
      IsKept (before ++ assign :: (path ++ [opener])) inside (closer :: after)

/-- The same tokens, which touch each other at the same places where they are kept. -/
structure Respaced (ts us : List Token) : Prop where
  relaid : Relaid ts us
  kept {before inside after before' inside' after' : List Token} :
    ts = before ++ inside ++ after → us = before' ++ inside' ++ after' →
    before'.length = before.length → inside'.length = inside.length →
    IsKept before inside after → gaps inside' = gaps inside

variable {t u : Token} {ts us ts' : List Token}

/-- Tokens that are kept are kept among more tokens. -/
theorem IsKept.extend {before inside after : List Token} (h : IsKept before inside after)
    (first last : List Token) : IsKept (first ++ before) inside (after ++ last) := by
  cases h with
  | block assign opens balanced closes =>
    rw [← List.append_assoc]
    exact .block assign opens balanced closes
  | arguments assign isPath opens balanced closes =>
    rw [← List.append_assoc]
    exact .arguments assign isPath opens balanced closes

namespace Respaced

theorem append_inv (h : Respaced (ts ++ us) ts') :
    ∃ vs ws, ts' = vs ++ ws ∧ Respaced ts vs ∧ Respaced us ws := by
  obtain ⟨vs, ws, rfl, left, right⟩ := h.relaid.append_inv
  refine ⟨vs, ws, rfl, ⟨left, ?_⟩, ⟨right, ?_⟩⟩
  · intro before inside after before' inside' after' eq eq' sameBefore sameInside isKept
    subst eq eq'
    have split : before ++ inside ++ after ++ us = before ++ inside ++ (after ++ us) := by simp
    have split' : before' ++ inside' ++ after' ++ ws = before' ++ inside' ++ (after' ++ ws) := by
      simp
    exact h.kept split split' sameBefore sameInside (isKept.extend [] us)
  · intro before inside after before' inside' after' eq eq' sameBefore sameInside isKept
    subst eq eq'
    have length : (vs ++ before').length = (ts ++ before).length := by
      simp [sameBefore, left.length_eq]
    have split : ts ++ (before ++ inside ++ after) = ts ++ before ++ inside ++ (after ++ []) := by
      simp
    have split' : vs ++ (before' ++ inside' ++ after') = vs ++ before' ++ inside' ++ after' := by
      simp
    exact h.kept split split' length sameInside (isKept.extend ts [])

theorem cons_inv (h : Respaced (t :: ts) ts') :
    ∃ u us, ts' = u :: us ∧ t.Relaid u ∧ Respaced ts us := by
  have split : Respaced ([t] ++ ts) ts' := h
  obtain ⟨vs, us, rfl, left, right⟩ := split.append_inv
  obtain ⟨u, vs, rfl, first, rest⟩ := left.relaid.cons_inv
  cases rest
  exact ⟨u, us, rfl, first, right⟩

/-- Nothing on either side, or a token on both. -/
theorem cases (h : Respaced ts us) :
    ts = [] ∧ us = [] ∨
      ∃ t ts₁ u us₁, ts = t :: ts₁ ∧ us = u :: us₁ ∧ t.Relaid u ∧ Respaced ts₁ us₁ := by
  cases ts with
  | nil =>
    cases h.relaid
    exact .inl ⟨rfl, rfl⟩
  | cons t ts =>
    obtain ⟨u, us, rfl, first, rest⟩ := h.cons_inv
    exact .inr ⟨t, ts, u, us, rfl, rfl, first, rest⟩

/-- What comes next does not depend on the layout. -/
theorem any_head? (h : Respaced ts us) {P : Token → Bool}
    (same : ∀ {t u : Token}, t.Relaid u → P u = P t) : us.head?.any P = ts.head?.any P := by
  rcases h.cases with ⟨rfl, rfl⟩ | ⟨t, ts, u, us, rfl, rfl, first, -⟩
  · rfl
  · simp [same first]

theorem tail (h : Respaced ts us) : Respaced ts.tail us.tail := by
  rcases h.cases with ⟨rfl, rfl⟩ | ⟨t, ts, u, us, rfl, rfl, -, rest⟩
  · exact h
  · exact rest

/-- Tokens that are kept at the same place on both sides have the same text. -/
theorem sameText {before inside after before' inside' after' : List Token} (h : Respaced ts us)
    (eq : ts = before ++ inside ++ after) (eq' : us = before' ++ inside' ++ after')
    (length : before'.length = before.length) (relaid : Relaid inside inside')
    (isKept : IsKept before inside after) : SameText inside inside' :=
  ⟨relaid, h.kept eq eq' length relaid.length_eq.symm isKept⟩

/-- What is left after the same number of tokens. -/
theorem of_suffix {bs bs' : List Token} (h : Respaced ts us) (left : bs <:+ ts) (left' : bs' <:+ us)
    (length : bs'.length = bs.length) : Respaced bs bs' := by
  obtain ⟨as, rfl⟩ := left
  obtain ⟨as', rfl⟩ := left'
  obtain ⟨vs, ws, eq, left, right⟩ := h.append_inv
  have same : ws.length = bs'.length := by rw [length, right.relaid.length_eq]
  rwa [(List.append_inj' eq same.symm).2]

/-- The same number of tokens from the start. -/
theorem of_prefix {as as' : List Token} (h : Respaced ts us) (first : as <+: ts)
    (first' : as' <+: us) (length : as'.length = as.length) : Respaced as as' := by
  obtain ⟨bs, rfl⟩ := first
  obtain ⟨bs', rfl⟩ := first'
  obtain ⟨vs, ws, eq, left, -⟩ := h.append_inv
  have same : as'.length = vs.length := by rw [length, left.relaid.length_eq]
  rwa [(List.append_inj eq same).1]

end Respaced

def messages (ws : List Warning) : List String := ws.map (·.diagnostic.message)

theorem messages_append (vs ws : List Warning) : messages (vs ++ ws) = messages vs ++ messages ws :=
  List.map_append

structure TokenStream.Respaced (s s' : TokenStream) : Prop where
  ahead : ComponentMarkup.Respaced s.ahead s'.ahead
  warnings : messages s'.warnings = messages s.warnings

/-! ## Failures -/

structure ParseError.Alike (e e' : ParseError) : Prop where
  kind : e'.kind = e.kind
  code : e'.diagnostic.code = e.diagnostic.code
  message : e'.diagnostic.message = e.diagnostic.message

namespace ParseError

theorem unexpectedToken_alike (expected : String) (h : t.Relaid u) :
    (unexpectedToken expected t).Alike (unexpectedToken expected u) :=
  ⟨rfl, rfl, by simp [unexpectedToken, h.lexeme]⟩

theorem trailingToken_alike (h : t.Relaid u) : (trailingToken t).Alike (trailingToken u) :=
  ⟨rfl, rfl, by simp [trailingToken, h.lexeme]⟩

theorem unclosedDelimiter_alike (h : t.Relaid u) (l l' : Source.Location) :
    (unclosedDelimiter t l).Alike (unclosedDelimiter u l') :=
  ⟨rfl, rfl, by simp [unclosedDelimiter, h.lexeme]⟩

end ParseError

inductive Failure.Alike : Failure → Failure → Prop where
  | rejected {e e' : ParseError} : e.Alike e' → Alike (.rejected e) (.rejected e')
  | nothingToSkip : Alike .nothingToSkip .nothingToSkip
  | strayCloser {t u : Token} : t.Relaid u → Alike (.strayCloser t) (.strayCloser u)

/-! ## Outcomes -/

namespace Parser

variable {α β : Type} {s s' : TokenStream} {Q : α → α → Prop} {R : β → β → Prop}

/-- Both fail alike, or what comes out of both is related and they leave the same behind. -/
inductive Alike (Q : α → α → Prop) :
    EStateM.Result Failure TokenStream α → EStateM.Result Failure TokenStream α → Prop
  | ok {a a' : α} {s s' : TokenStream} : Q a a' → s.Respaced s' → Alike Q (.ok a s) (.ok a' s')
  | error {e e' : Failure} {s s' : TokenStream} :
      e.Alike e' → Alike Q (.error e s) (.error e' s')

theorem Alike.bind {p p' : Parser α} {f f' : α → Parser β} (hp : Alike Q (p.run s) (p'.run s'))
    (hf : ∀ a a' s₁ s₁', p.run s = .ok a s₁ → p'.run s' = .ok a' s₁' → Q a a' → s₁.Respaced s₁' →
      Alike R ((f a).run s₁) ((f' a').run s₁')) :
    Alike R ((p >>= f).run s) ((p' >>= f').run s') := by
  rw [run_bind, run_bind]
  generalize p.run s = r, p'.run s' = r' at hp hf
  cases hp with
  | ok related same => exact hf _ _ _ _ rfl rfl related same
  | error fails => exact .error fails

theorem Alike.rejected {e e' : ParseError} (h : e.Alike e') :
    Alike Q (.error (.rejected e) s) (.error (.rejected e') s') :=
  .error (.rejected h)

/-! ## Single tokens and repetition -/

theorem seek_alike (rest : Respaced ts us) (h : s.Respaced s') :
    Alike (fun _ _ => True) ((seek ts).run s) ((seek us).run s') :=
  .ok trivial ⟨rest, h.warnings⟩

theorem unexpectedEnd_alike (expected : String) (s s' : TokenStream) :
    Alike Q ((unexpectedEnd expected).run s) ((unexpectedEnd expected).run s') :=
  .rejected ⟨rfl, rfl, rfl⟩

theorem advance_alike (h : s.Respaced s') :
    Alike Token.Relaid (advance.run s) (advance.run s') := by
  rw [advance, run_bind_of_ok run_ahead, run_bind_of_ok run_ahead]
  rcases h.ahead.cases with ⟨ahead, ahead'⟩ | ⟨t, ts, u, us, ahead, ahead', first, rest⟩
  · rw [ahead, ahead']
    exact unexpectedEnd_alike ..
  · rw [ahead, ahead']
    exact .ok first ⟨rest, h.warnings⟩

theorem consume_alike (kind : TokenKind) (expected : String) (h : s.Respaced s') :
    Alike Token.Relaid ((consume kind expected).run s) ((consume kind expected).run s') := by
  rw [consume, run_bind_of_ok run_peek, run_bind_of_ok run_peek]
  rcases h.ahead.cases with ⟨ahead, ahead'⟩ | ⟨t, ts, u, us, ahead, ahead', first, rest⟩
  · rw [ahead, ahead']
    exact unexpectedEnd_alike ..
  · simp only [ahead, ahead', List.head?_cons, first.kind]
    split
    case isTrue => exact advance_alike h
    case isFalse => exact .rejected (ParseError.unexpectedToken_alike _ first)

theorem accept_alike (kind : TokenKind) (h : s.Respaced s') :
    Alike (fun _ _ => True) ((accept kind).run s) ((accept kind).run s') := by
  rw [accept, run_bind_of_ok (run_check _), run_bind_of_ok (run_check _),
    h.ahead.any_head? fun same => by rw [same.kind]]
  split
  case isTrue => exact (advance_alike h).bind fun _ _ _ _ _ _ _ same => .ok trivial same
  case isFalse => exact .ok trivial h

theorem many_alike {p : Parser (Option α)}
    (step : ∀ {s s' : TokenStream}, s.Respaced s' → Alike (Option.Rel Q) (p.run s) (p.run s'))
    (h : s.Respaced s') :
    Alike (List.Forall₂ Q) (EStateM.run (many p) s) (EStateM.run (many p) s') := by
  change Alike (List.Forall₂ Q) (many p s) (many p s')
  induction hn : s.ahead.length using Nat.strongRecOn generalizing s s' with
  | ind n ih =>
    subst hn
    have first := step h
    rw [many, many]
    generalize p.run s = r, p.run s' = r' at first ⊢
    cases first with
    | error fails => exact .error fails
    | @ok found found' rest rest' related same =>
      cases related with
      | none => exact .ok .nil same
      | some related =>
        -- Both have taken a token, or neither has.
        have all := h.ahead.relaid.length_eq
        have left := same.ahead.relaid.length_eq
        simp only [← all, ← left]
        split
        case isTrue shorter =>
          have more := ih _ shorter same rfl
          generalize many p rest = m, many p rest' = m' at more ⊢
          cases more with
          | ok relateds same => exact .ok (.cons related relateds) same
          | error fails => exact .error fails
        case isFalse => exact .ok (.cons related .nil) same

end Parser

end ComponentMarkup
