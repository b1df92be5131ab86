import ComponentMarkup.Proofs.Parsing.Runs

/-!
# Reading paths

Type paths and value paths are read up to where no separator with a name behind it follows.

## Main definitions

* `Lookahead.EndsPath` — the tokens ahead do not go on with a path.

## Main statements

* `Parser.typePath_sound`, `Parser.typePath_complete` — a type path.
* `Parser.valuePath_sound`, `Parser.valuePath_complete` — a value path.
-/

namespace ComponentMarkup

open Grammar

/-- A token that is an identifier is not a mark. -/
theorem Token.isMark_of_isIdentifier {t : Token} (h : t.isIdentifier = true) (m : Mark) :
    t.isMark m = false := by
  simp_all [isIdentifier, isMark]

namespace Lookahead

variable {m : Mark} {t : Token} {ts us : List Token}

theorem mark?_eq_some_iff : mark? m ts = some us ↔ ∃ t, ts = t :: us ∧ t.isMark m = true := by
  cases ts with
  | nil => simp [mark?]
  | cons t ts =>
    simp only [mark?, Option.ite_none_right_eq_some, Option.some.injEq, List.cons.injEq]
    grind

theorem mark?_cons_of_isIdentifier (h : t.isIdentifier = true) : mark? m (t :: ts) = none := by
  simp [mark?, Token.isMark_of_isIdentifier h]

theorem mark?_cons_of_isMark {n : Mark} (h : t.isMark n = true) (ne : n ≠ m) :
    mark? m (t :: ts) = none := by
  simp [mark?, Token.isMark_of_isMark h ne]

theorem doubleColon?_eq_some_iff :
    doubleColon? ts = some us ↔
      ∃ a b, ts = a :: b :: us ∧ a.isMark .colon = true ∧ b.isMark .colon = true := by
  simp only [doubleColon?, Option.bind_eq_some_iff, mark?_eq_some_iff]
  grind

theorem doubleColon?_of_mark? (h : mark? .colon ts = none) : doubleColon? ts = none := by
  simp [doubleColon?, h]

/-- Neither a point nor `::` comes next. -/
def EndsPath (ts : List Token) : Prop := mark? .dot ts = none ∧ doubleColon? ts = none

theorem endsPath_cons (dot : t.isMark .dot = false) (colon : t.isMark .colon = false) :
    EndsPath (t :: ts) :=
  ⟨by simp [mark?, dot], by simp [doubleColon?, mark?, colon]⟩

end Lookahead

open Lookahead

namespace Parser

variable {s s' : TokenStream} {ts : List Token} {t : Token}

theorem doubleColon_eq_ok_iff {leading : Bool} :
    doubleColon.run s = .ok leading s' ↔
      ∃ ts, IsLeading ts leading ∧ s = s'.before ts ∧
        (leading = false → doubleColon? s'.ahead = none) := by
  rw [doubleColon, run_bind_of_ok run_ahead]
  cases found : doubleColon? s.ahead with
  | none =>
    constructor
    · intro h
      cases h
      exact ⟨[], .absent, rfl, fun _ => found⟩
    · rintro ⟨ts, leads, rfl, -⟩
      cases leads with
      | absent => rfl
      | present a b => simp [doubleColon?, mark?, a, b] at found
  | some rest =>
    obtain ⟨a, b, ahead, isA, isB⟩ := doubleColon?_eq_some_iff.1 found
    constructor
    · intro h
      cases h
      exact ⟨[a, b], .present isA isB, TokenStream.eq_before ahead, by simp⟩
    · rintro ⟨ts, leads, rfl, none⟩
      cases leads with
      | absent => simp [none rfl] at found
      | present =>
        cases ahead
        rfl

/-! ## Type paths -/

theorem typeSegment_eq_some_iff :
    typeSegment.run s = .ok (some t) s' ↔ ∃ ts, IsTypeSegment ts t ∧ s = s'.before ts := by
  simp only [typeSegment, run_bind_eq_ok]
  constructor
  · rintro ⟨leading, s₁, colons, h⟩
    obtain ⟨ts, leads, rfl, -⟩ := doubleColon_eq_ok_iff.1 colons
    cases leads with
    | absent => cases h
    | present a b =>
      obtain ⟨name, s₂, hname, h⟩ := run_bind_eq_ok.1 h
      cases h
      obtain ⟨isName, rfl⟩ := identifier_eq_ok_iff.1 hname
      exact ⟨_, .colons a b isName, rfl⟩
  · rintro ⟨ts, segment, rfl⟩
    cases segment with
    | @colons a b name isA isB isName =>
      refine ⟨true, s'.before [t], doubleColon_eq_ok_iff.2 ⟨_, .present isA isB, rfl, by simp⟩, ?_⟩
      exact run_bind_eq_ok.2 ⟨t, s', identifier_eq_ok_iff.2 ⟨isName, rfl⟩, rfl⟩

theorem typeSegment_eq_none_iff :
    typeSegment.run s = .ok none s' ↔ s = s' ∧ doubleColon? s.ahead = none := by
  simp only [typeSegment, run_bind_eq_ok]
  constructor
  · rintro ⟨leading, s₁, colons, h⟩
    obtain ⟨ts, leads, rfl, none⟩ := doubleColon_eq_ok_iff.1 colons
    cases leads with
    | absent =>
      cases h
      exact ⟨rfl, none rfl⟩
    | present =>
      obtain ⟨name, s₂, -, h⟩ := run_bind_eq_ok.1 h
      cases h
  · rintro ⟨rfl, none⟩
    exact ⟨false, s, doubleColon_eq_ok_iff.2 ⟨[], .absent, rfl, fun _ => none⟩, rfl⟩

/-- A path starts with its colons, or with its first name if there are none. -/
theorem head?_before_getD (cs : List Token) (first : Token) (ts : List Token) (s : TokenStream) :
    (((s.before ts).before [first]).before cs).ahead.head?.getD first = cs.head?.getD first := by
  cases cs <;> rfl

theorem typePath_sound {p : TypePath} (h : typePath.run s = .ok p s') :
    ∃ ts, IsTypePath ts p ∧ s = s'.before ts := by
  rw [typePath, run_bind_of_ok run_peek] at h
  obtain ⟨leading, s₁, colons, h⟩ := run_bind_eq_ok.1 h
  obtain ⟨first, s₂, hfirst, h⟩ := run_bind_eq_ok.1 h
  obtain ⟨more, s₃, hmore, h⟩ := run_bind_eq_ok.1 h
  cases h
  obtain ⟨cs, leads, rfl, -⟩ := doubleColon_eq_ok_iff.1 colons
  obtain ⟨isFirst, rfl⟩ := identifier_eq_ok_iff.1 hfirst
  obtain ⟨-, ts, repeated, rfl⟩ := many_sound typeSegment_eq_some_iff.1
    (fun h => (typeSegment_eq_none_iff.1 h).1) (fun h => by cases h; simp) hmore
  refine ⟨cs ++ first :: ts, ?_, by simp [TokenStream.before]⟩
  rw [head?_before_getD]
  exact .mk leads isFirst repeated

theorem typePath_complete {p : TypePath} (h : IsTypePath ts p)
    (follow : doubleColon? s.ahead = none) : typePath.run (s.before ts) = .ok p s := by
  obtain @⟨cs, ts, leading, first, more, leads, isFirst, repeated⟩ := h
  have colons : doubleColon.run (((s.before ts).before [first]).before cs) =
      .ok leading ((s.before ts).before [first]) :=
    doubleColon_eq_ok_iff.2
      ⟨cs, leads, rfl, fun _ => doubleColon?_of_mark? (mark?_cons_of_isIdentifier isFirst)⟩
  have segments : EStateM.run (many typeSegment) (s.before ts) = .ok more s :=
    many_complete repeated (F := fun _ => True)
      (fun h _ => typeSegment_eq_some_iff.2 ⟨_, h, rfl⟩) (fun h => by cases h; simp)
      (fun _ => trivial) trivial (typeSegment_eq_none_iff.2 ⟨rfl, follow⟩)
  rw [← List.singleton_append, TokenStream.before_append, TokenStream.before_append, typePath,
    run_bind_of_ok run_peek, run_bind_of_ok colons,
    run_bind_of_ok (run_identifier isFirst), run_bind_of_ok segments,
    ← head?_before_getD cs first ts s]
  rfl

/-- Tokens are read as a type path, with none left over, exactly if they are one. -/
theorem typePath_whole_iff {p : TypePath} :
    (∃ s', typePath.run s = .ok p s' ∧ s'.ahead = []) ↔ IsTypePath s.ahead p :=
  whole_iff typePath_sound fun h empty => typePath_complete h (by rw [empty]; rfl)

/-! ## Value paths -/

theorem run_pathSegment_dot {point : Token} (isPoint : point.isMark .dot = true) :
    pathSegment.run (s.before [point]) =
      (do return some (.dot, ← identifier "identifier") : Parser (Option (Separator × Token))).run
        s := by
  rw [pathSegment, run_bind_of_ok run_ahead]
  simp only [TokenStream.ahead_before, List.singleton_append, isPoint, if_true]
  rfl

theorem run_pathSegment_colons {a b : Token} (isA : a.isMark .colon = true)
    (isB : b.isMark .colon = true) :
    pathSegment.run (s.before [a, b]) =
      (do return some (.colons, ← identifier "identifier") :
        Parser (Option (Separator × Token))).run s := by
  rw [pathSegment, run_bind_of_ok run_ahead]
  simp only [TokenStream.ahead_before, List.cons_append, List.nil_append,
    Token.isMark_of_isMark isA (n := .dot) nofun, isA, isB, List.head?_cons, Option.any_some,
    Bool.and_self, if_true, Bool.false_eq_true, if_false]
  rfl

theorem run_pathSegment_of_endsPath (h : EndsPath s.ahead) :
    pathSegment.run s = .ok none s := by
  obtain ⟨dot, colons⟩ := h
  rw [pathSegment, run_bind_of_ok run_ahead]
  rcases s with ⟨_ | ⟨t, ts⟩, stop, warnings, journal⟩
  · rfl
  · have isDot : t.isMark .dot = false := by simpa [mark?] using dot
    have isColons : (t.isMark .colon && ts.head?.any (·.isMark .colon)) = false := by
      cases ts <;> simp_all [doubleColon?, mark?]
    simp only [isDot, isColons, Bool.false_eq_true, if_false]
    rfl

/-- What a stream can go on with behind a name of a path. -/
theorem endsPath_or (s : TokenStream) :
    EndsPath s.ahead ∨
      (∃ (point : Token) (rest : TokenStream),
        point.isMark .dot = true ∧ s = rest.before [point]) ∨
      ∃ (a b : Token) (rest : TokenStream),
        a.isMark .colon = true ∧ b.isMark .colon = true ∧ s = rest.before [a, b] := by
  cases dot : mark? .dot s.ahead with
  | some ts =>
    obtain ⟨point, ahead, isPoint⟩ := mark?_eq_some_iff.1 dot
    exact .inr (.inl ⟨point, _, isPoint, TokenStream.eq_before ahead⟩)
  | none =>
    cases colons : doubleColon? s.ahead with
    | some ts =>
      obtain ⟨a, b, ahead, isA, isB⟩ := doubleColon?_eq_some_iff.1 colons
      have split : s.ahead = [a, b] ++ ts := ahead
      exact .inr (.inr ⟨a, b, _, isA, isB, TokenStream.eq_before split⟩)
    | none => exact .inl ⟨dot, colons⟩

theorem pathSegment_eq_some_iff {segment : Separator × Token} :
    pathSegment.run s = .ok (some segment) s' ↔
      ∃ ts, IsPathSegment ts segment ∧ s = s'.before ts := by
  constructor
  · intro h
    rcases endsPath_or s with ends | ⟨point, rest, isPoint, rfl⟩ | ⟨a, b, rest, isA, isB, rfl⟩
    · rw [run_pathSegment_of_endsPath ends] at h
      cases h
    · rw [run_pathSegment_dot isPoint] at h
      obtain ⟨name, s₁, hname, h⟩ := run_bind_eq_ok.1 h
      cases h
      obtain ⟨isName, rfl⟩ := identifier_eq_ok_iff.1 hname
      exact ⟨[point, name], .dot isPoint isName, rfl⟩
    · rw [run_pathSegment_colons isA isB] at h
      obtain ⟨name, s₁, hname, h⟩ := run_bind_eq_ok.1 h
      cases h
      obtain ⟨isName, rfl⟩ := identifier_eq_ok_iff.1 hname
      exact ⟨[a, b, name], .colons isA isB isName, rfl⟩
  · rintro ⟨ts, segment, rfl⟩
    cases segment with
    | @colons a b name isA isB isName =>
      exact (run_pathSegment_colons isA isB).trans (run_bind_of_ok (run_identifier isName))
    | @dot point name isPoint isName =>
      exact (run_pathSegment_dot isPoint).trans (run_bind_of_ok (run_identifier isName))

theorem pathSegment_eq_none_iff :
    pathSegment.run s = .ok none s' ↔ s = s' ∧ EndsPath s.ahead := by
  constructor
  · intro h
    rcases endsPath_or s with ends | ⟨point, rest, isPoint, rfl⟩ | ⟨a, b, rest, isA, isB, rfl⟩
    · rw [run_pathSegment_of_endsPath ends] at h
      cases h
      exact ⟨rfl, ends⟩
    · rw [run_pathSegment_dot isPoint] at h
      obtain ⟨name, s₁, -, h⟩ := run_bind_eq_ok.1 h
      cases h
    · rw [run_pathSegment_colons isA isB] at h
      obtain ⟨name, s₁, -, h⟩ := run_bind_eq_ok.1 h
      cases h
  · rintro ⟨rfl, ends⟩
    exact run_pathSegment_of_endsPath ends

theorem leadingColons_sound {leading : Bool} (h : leadingColons.run s = .ok leading s') :
    ∃ ts, IsLeading ts leading ∧ s = s'.before ts := by
  rw [leadingColons, run_bind_of_ok (run_check _)] at h
  split at h
  case isTrue =>
    obtain ⟨a, s₁, ha, h⟩ := run_bind_eq_ok.1 h
    obtain ⟨b, s₂, hb, h⟩ := run_bind_eq_ok.1 h
    cases h
    obtain ⟨isA, rfl⟩ := consume_eq_ok_iff.1 ha
    obtain ⟨isB, rfl⟩ := consume_eq_ok_iff.1 hb
    exact ⟨[a, b], .present (Token.kind_eq_mark.1 isA) (Token.kind_eq_mark.1 isB), rfl⟩
  case isFalse =>
    cases h
    exact ⟨[], .absent, rfl⟩

theorem leadingColons_complete {leading : Bool} (h : IsLeading ts leading)
    (follow : mark? .colon s.ahead = none) :
    leadingColons.run (s.before ts) = .ok leading s := by
  rw [leadingColons, run_bind_of_ok (run_check _)]
  cases h with
  | absent =>
    simp only [TokenStream.before_nil, any_head?_eq_false_iff.2 follow]
    rfl
  | @present a b isA isB =>
    have first := Token.kind_eq_mark.2 isA
    simp only [TokenStream.ahead_before, List.cons_append, List.head?_cons, Option.any_some, first,
      decide_true, if_true]
    rw [← List.singleton_append, TokenStream.before_append,
      run_bind_of_ok (consume_eq_ok_iff.2 ⟨first, rfl⟩),
      run_bind_of_ok (consume_eq_ok_iff.2 ⟨Token.kind_eq_mark.2 isB, rfl⟩)]
    rfl

theorem valuePath_sound {p : ValuePath} {start : Token} (h : (valuePath start).run s = .ok p s')
    (starts : s.ahead.head? = some start) : ∃ ts, IsValuePath ts p ∧ s = s'.before ts := by
  obtain ⟨leading, s₁, hleading, h⟩ := run_bind_eq_ok.1 h
  obtain ⟨first, s₂, hfirst, h⟩ := run_bind_eq_ok.1 h
  obtain ⟨more, s₃, hmore, h⟩ := run_bind_eq_ok.1 h
  cases h
  obtain ⟨cs, leads, rfl⟩ := leadingColons_sound hleading
  obtain ⟨isFirst, rfl⟩ := identifier_eq_ok_iff.1 hfirst
  obtain ⟨-, ts, repeated, rfl⟩ := many_sound pathSegment_eq_some_iff.1
    (fun h => (pathSegment_eq_none_iff.1 h).1) (fun h => by cases h <;> simp) hmore
  refine ⟨cs ++ first :: ts, ?_, by simp [TokenStream.before]⟩
  obtain rfl : cs.head?.getD first = start := by
    cases cs <;> simpa using starts
  exact .mk leads isFirst repeated

theorem valuePath_complete {p : ValuePath} {start : Token} (h : IsValuePath ts p)
    (starts : ts.head? = some start) (follow : EndsPath s.ahead) :
    (valuePath start).run (s.before ts) = .ok p s := by
  obtain @⟨cs, ts, leading, first, more, leads, isFirst, repeated⟩ := h
  have segments : EStateM.run (many pathSegment) (s.before ts) = .ok more s :=
    many_complete repeated (F := fun _ => True)
      (fun h _ => pathSegment_eq_some_iff.2 ⟨_, h, rfl⟩) (fun h => by cases h <;> simp)
      (fun _ => trivial) trivial (pathSegment_eq_none_iff.2 ⟨rfl, follow⟩)
  obtain rfl : cs.head?.getD first = start := by
    cases cs <;> simpa using starts
  rw [← List.singleton_append, TokenStream.before_append, TokenStream.before_append, valuePath,
    run_bind_of_ok (leadingColons_complete leads (mark?_cons_of_isIdentifier isFirst)),
    run_bind_of_ok (run_identifier isFirst), run_bind_of_ok segments]
  rfl

end Parser

end ComponentMarkup
