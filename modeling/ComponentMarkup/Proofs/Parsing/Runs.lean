import ComponentMarkup.Proofs.Parsing.Groups

/-!
# Runs of parsers

What the parsers do that all others are made of.

## Main definitions

* `TokenStream.before` — a stream with more tokens in front.

## Main statements

* `Parser.run_bind_eq_ok` — two parsers one after the other.
* `Parser.consume_eq_ok_iff`, `Parser.accept_eq_ok_iff` — a token that has to come, or may.
* `Parser.group_eq_ok_iff` — a group.
* `Parser.many_sound`, `Parser.many_complete` — repetition.
* `Parser.whole_iff` — all tokens of a stream.
-/

namespace ComponentMarkup

open Source (Location)

theorem Token.kind_eq_identifier {t : Token} : t.kind = .identifier ↔ t.isIdentifier = true := by
  simp only [Token.kind, isIdentifier, decide_eq_true_eq]
  cases t.content <;> simp [Content.kind]

theorem Token.kind_eq_mark {t : Token} {m : Mark} : t.kind = .mark m ↔ t.isMark m = true := by
  simp only [Token.kind, isMark, decide_eq_true_eq]
  cases t.content <;> simp [Content.kind]

namespace TokenStream

/-- The stream with `ts` in front of the tokens ahead. -/
def before (s : TokenStream) (ts : List Token) : TokenStream := { s with ahead := ts ++ s.ahead }

variable (s : TokenStream) (ts us : List Token)

@[simp] theorem ahead_before : (s.before ts).ahead = ts ++ s.ahead := rfl

@[simp] theorem before_nil : s.before [] = s := rfl

@[simp] theorem before_append : s.before (ts ++ us) = (s.before us).before ts := by
  simp [before]

/-- Any stream is what is left of it later with the tokens read in front. -/
theorem eq_before {s : TokenStream} {ts us : List Token} (h : s.ahead = ts ++ us) :
    s = ({ s with ahead := us } : TokenStream).before ts := by
  simp [before, ← h]

end TokenStream

theorem Lookahead.any_head?_eq_false_iff {m : Mark} {ts : List Token} :
    ts.head?.any (·.kind = .mark m) = false ↔ mark? m ts = none := by
  cases ts <;> simp [mark?, Token.kind_eq_mark]

namespace Parser

variable {α β : Type} {s s' s'' : TokenStream} {a : α} {b : β}

theorem run_bind {p : Parser α} {f : α → Parser β} :
    (p >>= f).run s =
      match p.run s with
      | .ok a s' => (f a).run s'
      | .error e s' => .error e s' := by
  rw [EStateM.run_bind]
  cases p.run s <;> rfl

theorem run_bind_eq_ok {p : Parser α} {f : α → Parser β} :
    (p >>= f).run s = .ok b s'' ↔ ∃ a s', p.run s = .ok a s' ∧ (f a).run s' = .ok b s'' := by
  rw [run_bind]
  cases p.run s with
  | ok a s' =>
    constructor
    · exact fun h => ⟨a, s', rfl, h⟩
    · rintro ⟨_, _, eq, h⟩
      cases eq
      exact h
  | error e s' => simp

theorem run_bind_of_ok {p : Parser α} {f : α → Parser β} (h : p.run s = .ok a s') :
    (p >>= f).run s = (f a).run s' := by
  rw [run_bind, h]

@[simp] theorem run_get : (get : Parser TokenStream).run s = .ok s s := rfl

@[simp] theorem run_peek : peek.run s = .ok s.ahead.head? s := rfl

@[simp] theorem run_ahead : ahead.run s = .ok s.ahead s := rfl

@[simp] theorem run_location : location.run s = .ok s.location s := rfl

@[simp] theorem run_check (kind : TokenKind) :
    (check kind).run s = .ok (s.ahead.head?.any (·.kind = kind)) s := rfl

@[simp] theorem run_reject (e : ParseError) :
    (reject e : Parser α).run s = .error (.rejected e) s := rfl

@[simp] theorem run_advance (t : Token) : advance.run (s.before [t]) = .ok t s := rfl

theorem advance_eq_ok_iff {t : Token} : advance.run s = .ok t s' ↔ s = s'.before [t] := by
  constructor
  · intro h
    rcases s with ⟨_ | ⟨u, us⟩, stop, warnings, journal⟩
    · cases h
    · cases h
      rfl
  · rintro rfl
    exact run_advance t

theorem consume_eq_ok_iff {kind : TokenKind} {expected : String} {t : Token} :
    (consume kind expected).run s = .ok t s' ↔ t.kind = kind ∧ s = s'.before [t] := by
  rw [consume, run_bind_of_ok run_peek]
  constructor
  · intro h
    rcases s with ⟨_ | ⟨u, us⟩, stop, warnings, journal⟩
    · cases h
    · by_cases same : u.kind = kind
      · simp only [List.head?_cons, same, if_true] at h
        cases h
        exact ⟨same, rfl⟩
      · simp [same] at h
  · rintro ⟨rfl, rfl⟩
    simp

theorem mark_eq_ok_iff {m : Mark} {t : Token} :
    (mark m).run s = .ok t s' ↔ t.isMark m = true ∧ s = s'.before [t] := by
  rw [mark, consume_eq_ok_iff, Token.kind_eq_mark]

theorem identifier_eq_ok_iff {expected : String} {t : Token} :
    (identifier expected).run s = .ok t s' ↔ t.isIdentifier = true ∧ s = s'.before [t] := by
  rw [identifier, consume_eq_ok_iff, Token.kind_eq_identifier]

theorem run_mark {m : Mark} {t : Token} (h : t.isMark m = true) :
    (mark m).run (s.before [t]) = .ok t s :=
  mark_eq_ok_iff.2 ⟨h, rfl⟩

theorem run_identifier {expected : String} {t : Token} (h : t.isIdentifier = true) :
    (identifier expected).run (s.before [t]) = .ok t s :=
  identifier_eq_ok_iff.2 ⟨h, rfl⟩

theorem accept_sound {m : Mark} {found : Option Token}
    (h : (accept (.mark m)).run s = .ok found s') :
    ∃ ts, Grammar.IsOptional m ts ∧ s = s'.before ts := by
  obtain ⟨starts, _, hs, h⟩ := run_bind_eq_ok.1 h
  cases hs
  split at h
  case isTrue starts =>
    obtain ⟨t, _, ht, h⟩ := run_bind_eq_ok.1 h
    cases h
    obtain rfl := advance_eq_ok_iff.1 ht
    exact ⟨[t], .present (by simpa [Token.kind_eq_mark] using starts), rfl⟩
  case isFalse =>
    cases h
    exact ⟨[], .absent, rfl⟩

theorem accept_complete {m : Mark} {ts : List Token} (h : Grammar.IsOptional m ts)
    (follow : ts = [] → Lookahead.mark? m s.ahead = none) :
    (accept (.mark m)).run (s.before ts) = .ok ts.head? s := by
  rw [accept, run_bind_of_ok (run_check _)]
  cases h with
  | absent =>
    simp only [TokenStream.before_nil, Lookahead.any_head?_eq_false_iff.2 (follow rfl)]
    rfl
  | @present t is =>
    simp only [TokenStream.ahead_before, List.cons_append, List.nil_append, List.head?_cons,
      Option.any_some, Token.kind_eq_mark.2 is, decide_true, if_true]
    rfl

theorem group_eq_ok_iff {g : Group} :
    group.run s = .ok g s' ↔
      s = s'.before g.tokens ∧ Balanced g.inside ∧
        ∃ m, g.opener.opens? = some m ∧ g.closer.closes? = some m := by
  rw [group, run_bind_of_ok run_get]
  constructor
  · intro h
    cases read : Group.read s.ahead with
    | error fault =>
      simp only [read] at h
      cases h
    | ok r =>
      obtain ⟨g', rest⟩ := r
      simp only [read] at h
      cases h
      obtain ⟨ahead, isGroup⟩ := Group.read_eq_ok_iff.1 read
      exact ⟨TokenStream.eq_before ahead, isGroup⟩
  · rintro ⟨rfl, isGroup⟩
    have read : Group.read (s'.before g.tokens).ahead = .ok (g, s'.ahead) :=
      Group.read_eq_ok_iff.2 ⟨rfl, isGroup⟩
    simp only [read]
    rfl

/-- A group whose opener is a mark of its own. -/
theorem group_sound {o c : Mark} {g : Group} (pair : o.closer? = some c)
    (h : group.run s = .ok g s') (starts : s.ahead.head?.any (·.isMark o) = true) :
    g.opener.isMark o = true ∧ Balanced g.inside ∧ g.closer.isMark c = true ∧
      s = s'.before g.tokens := by
  obtain ⟨rfl, balanced, m, opens, closes⟩ := group_eq_ok_iff.1 h
  have opener : g.opener.isMark o = true := starts
  refine ⟨opener, balanced, ?_, rfl⟩
  rw [Token.opens?_of_isMark opener, pair] at opens
  cases opens
  exact Token.isMark_iff.2 (Token.closes?_eq_some_iff.1 closes).1

theorem group_complete {o c : Mark} {opener closer : Token} {inside : List Token}
    (pair : o.closer? = some c) (opens : opener.isMark o = true) (balanced : Balanced inside)
    (closes : closer.isMark c = true) :
    group.run (s.before (opener :: inside ++ [closer])) = .ok ⟨opener, inside, closer⟩ s :=
  group_eq_ok_iff.2 ⟨rfl, balanced, c, by rw [Token.opens?_of_isMark opens, pair],
    Token.closes?_eq_some_iff.2 ⟨Token.isMark_iff.1 closes, Mark.closes_of_closer? pair⟩⟩

/-- A parser that is run apart fails apart. -/
theorem run_within {p : Parser α} (ts : List Token) (stop : Location) (s : TokenStream) :
    ∃ s', ((within ts stop p).run s =
      match p.run ⟨ts, stop, [], []⟩ with
      | .ok a inner => .ok (.ok a, inner.warnings) s'
      | .error e inner => .ok (.error e, inner.warnings) s') ∧ s'.ahead = s.ahead := by
  unfold within
  cases p.run ⟨ts, stop, [], []⟩ <;> exact ⟨_, rfl, rfl⟩

variable {p : Parser (Option α)} {G : List Token → α → Prop} {as : List α}

theorem many_sound (sound : ∀ {s a s'}, p.run s = .ok (some a) s' → ∃ ts, G ts a ∧ s = s'.before ts)
    (stays : ∀ {s s'}, p.run s = .ok none s' → s = s') (progress : ∀ {ts a}, G ts a → ts ≠ [])
    (h : EStateM.run (many p) s = .ok as s') :
    p.run s' = .ok none s' ∧ ∃ ts, Grammar.Repeated G ts as ∧ s = s'.before ts := by
  change many p s = .ok as s' at h
  fun_induction many p s generalizing as with
  | case1 s s₁ hp =>
    cases h
    obtain rfl := stays hp
    exact ⟨hp, [], .nil, rfl⟩
  | case2 => cases h
  | case3 s a rest hp shorter more s₁ hmore ih =>
    cases h
    obtain ⟨stop, us, repeated, rfl⟩ := ih hmore
    obtain ⟨ts, first, rfl⟩ := sound hp
    exact ⟨stop, ts ++ us, .cons first repeated, by simp⟩
  | case4 => cases h
  | case5 s a rest hp longer =>
    -- What was read has tokens, so fewer of them are left.
    obtain ⟨ts, first, rfl⟩ := sound hp
    have := List.length_pos_iff.2 (progress first)
    simp only [TokenStream.ahead_before, List.length_append] at longer
    omega

/-- `F` is what may come behind a `G`. -/
theorem many_complete {F : List Token → Prop} {ts : List Token} (h : Grammar.Repeated G ts as)
    (complete : ∀ {ts a s}, G ts a → F s.ahead → p.run (s.before ts) = .ok (some a) s)
    (progress : ∀ {ts a}, G ts a → ts ≠ []) (first : ∀ {ts a us}, G ts a → F (ts ++ us))
    (last : F s.ahead) (stop : p.run s = .ok none s) :
    EStateM.run (many p) (s.before ts) = .ok as s := by
  change many p (s.before ts) = .ok as s
  induction h with
  | nil =>
    rw [many]
    simp [stop]
  | @cons ts us a as head tail ih =>
    have next : F (s.before us).ahead := by
      cases tail with
      | nil => exact last
      | cons head' _ =>
        rw [TokenStream.ahead_before, List.append_assoc]
        exact first head'
    have := List.length_pos_iff.2 (progress head)
    rw [many, TokenStream.before_append]
    simp [complete head next, ih, progress head]

/-- What reads exactly the tokens of a `G` reads a whole stream exactly if its tokens are one
`G`. -/
theorem whole_iff {p : Parser α} {G : List Token → α → Prop}
    (sound : ∀ {s s'}, p.run s = .ok a s' → ∃ ts, G ts a ∧ s = s'.before ts)
    (complete : ∀ {s ts}, G ts a → s.ahead = [] → p.run (s.before ts) = .ok a s) :
    (∃ s', p.run s = .ok a s' ∧ s'.ahead = []) ↔ G s.ahead a := by
  constructor
  · rintro ⟨s', run, done⟩
    obtain ⟨ts, isG, rfl⟩ := sound run
    rwa [TokenStream.ahead_before, done, List.append_nil]
  · intro isG
    have run := complete (s := { s with ahead := [] }) isG rfl
    rw [← TokenStream.eq_before (List.append_nil s.ahead).symm] at run
    exact ⟨_, run, rfl⟩

end Parser

end ComponentMarkup
