import ComponentMarkup.Construction.Render
import ComponentMarkup.Proofs.Lexing.Numerals
import ComponentMarkup.Proofs.Lexing.Respacing

/-!
# Reading emitted tokens again

The text of a group is made of the lexemes of its tokens, with two substitutions: `::` is written as
a point, and booleans are written as other names. The text is lexed to the same tokens again, the
substitutes in their places. There is one exception: an integer, `::` and a number without a gap
come to be one numeral with a fraction.

## Main definitions

* `recoded` — tokens with the two substitutions.
* `isApart` — whether the exception does not occur.

## Main statements

* `ReadFrom.resembles` — an emitted text resembles its source.
* `ReadFrom.yields_renderTokens_iff` — the tokens of an emitted text.
* `lex_renderTokens_iff` — the sources whose tokens are read again.
-/

namespace ComponentMarkup

/-- A boolean as it is emitted is a name. -/
def Token.recoded (t : Token) : Token :=
  match t.content with
  | .boolean b => { t with content := .identifier, lexeme := if b then "True" else "False" }
  | _ => t

/-- Two colons in a row are one point, wherever they stand. -/
def recoded : List Token → List Token
  | a :: b :: ts =>
    if a.isMark .colon && b.isMark .colon then ⟨.mark .dot, ".", a.start⟩ :: recoded ts
    else a.recoded :: recoded (b :: ts)
  | [a] => [a.recoded]
  | [] => []

def Token.isNumber (t : Token) : Bool := t.kind = .integer || t.kind = .float

/-- Whether an integer has two colons and a number behind it, without a gap in front of the colons
and behind them. -/
def fuses (a : Token) : List Token → Bool
  | b :: c :: d :: _ =>
    a.kind = .integer && b.isMark .colon && c.isMark .colon && d.isNumber &&
      a.stop.offset = b.start.offset && c.stop.offset = d.start.offset
  | _ => false

def isApart : List Token → Bool
  | [] => true
  | a :: ts => !fuses a ts && isApart ts

/-! ## Tokens in pairs -/

/-- Two colons are taken together, and all else one by one. -/
theorem pairs_induction {P : List Token → Prop} (nil : P [])
    (pair : ∀ a b ts, a.isMark .colon = true → b.isMark .colon = true → P ts → P (a :: b :: ts))
    (single : ∀ a ts, (∀ b ∈ ts.head?, (a.isMark .colon && b.isMark .colon) = false) → P ts →
      P (a :: ts)) (ts : List Token) : P ts := by
  fun_induction recoded ts with
  | case1 a b ts both ih =>
    obtain ⟨first, second⟩ := Bool.and_eq_true_iff.1 both
    exact pair a b ts first second ih
  | case2 a b ts not ih => exact single a _ (by simpa using not) ih
  | case3 a => exact single a [] nofun nil
  | case4 => exact nil

section

variable {a b : Token} {ts : List Token}

theorem recoded_pair (ha : a.isMark .colon = true) (hb : b.isMark .colon = true) :
    recoded (a :: b :: ts) = ⟨.mark .dot, ".", a.start⟩ :: recoded ts := by
  simp [recoded, ha, hb]

theorem recoded_single (h : ∀ b ∈ ts.head?, (a.isMark .colon && b.isMark .colon) = false) :
    recoded (a :: ts) = a.recoded :: recoded ts := by
  cases ts with
  | nil => rfl
  | cons b ts => simp [recoded, h b rfl]

/-- The text of tokens behind the offset `stop`. -/
def renderBehind (stop : Nat) (ts : List Token) : String :=
  RenderedPiece.joinAfter stop (RenderedPiece.ofTokens ts)

theorem renderTokens_pair (ha : a.isMark .colon = true) (hb : b.isMark .colon = true) :
    renderTokens (a :: b :: ts) = "." ++ renderBehind b.stop.offset ts := by
  simp [renderTokens, RenderedPiece.ofTokens, ha, hb, RenderedPiece.join, renderBehind]

theorem renderTokens_single
    (h : ∀ b ∈ ts.head?, (a.isMark .colon && b.isMark .colon) = false) :
    renderTokens (a :: ts) = a.render ++ renderBehind a.stop.offset ts := by
  cases ts with
  | nil => simp [renderTokens, RenderedPiece.ofTokens, RenderedPiece.join, renderBehind]
  | cons b ts =>
    simp [renderTokens, RenderedPiece.ofTokens, h b rfl, RenderedPiece.join, renderBehind]

theorem renderBehind_cons (stop : Nat) : renderBehind stop (a :: ts) =
    (if a.start.offset = stop then "" else " ") ++ renderTokens (a :: ts) := by
  obtain ⟨p, ps, pieces, start⟩ : ∃ p ps, RenderedPiece.ofTokens (a :: ts) = p :: ps ∧
      p.start = a.start := by
    cases ts with
    | nil => exact ⟨_, _, rfl, rfl⟩
    | cons b ts =>
      unfold RenderedPiece.ofTokens
      split <;> exact ⟨_, _, rfl, rfl⟩
  simp [renderBehind, renderTokens, pieces, RenderedPiece.joinAfter, RenderedPiece.join, start,
    String.append_assoc]

end

/-! ## Resemblance -/

theorem replaces_point : Replaces ':' '.' := ⟨by decide, by decide, by decide⟩

theorem replaces_true : Replaces 't' 'T' := ⟨by decide, by decide, by decide⟩

theorem replaces_false : Replaces 'f' 'F' := ⟨by decide, by decide, by decide⟩

/-- Strings apart, all but booleans are written as they are spelled. -/
theorem Token.eq_of_not_boolean {t : Token} (noString : t.kind ≠ .string)
    (noBoolean : ∀ b, t.content ≠ .boolean b) : t.render = t.lexeme ∧ t.recoded = t := by
  unfold Token.kind at noString
  unfold Token.render Token.recoded
  cases eq : t.content with
  | string s => simp [eq, Content.kind] at noString
  | boolean b => exact absurd eq (noBoolean b)
  | _ => exact ⟨rfl, rfl⟩

/-- The word that a boolean is spelled with. -/
def booleanWord (b : Bool) : List Char :=
  if b then ['t', 'r', 'u', 'e'] else ['f', 'a', 'l', 's', 'e']

/-- The word that is written for it. -/
def booleanName (b : Bool) : List Char :=
  if b then ['T', 'r', 'u', 'e'] else ['F', 'a', 'l', 's', 'e']

theorem Piece.of_read_boolean {c : Char} {cs rest lexeme : List Char} {b : Bool}
    (h : read c cs = .ok (.token (.boolean b) lexeme, rest)) :
    lexeme = booleanWord b ∧ Stops isNamePart rest := by
  generalize eq : Content.boolean b = content at h
  cases readAs_iff.2 h with
  | numeral _ _ numeral => cases numeral <;> cases eq
  | name =>
    refine ⟨?_, stops_dropWhile isNamePart cs⟩
    unfold nameContent at eq
    split at eq
    case isTrue word =>
      cases eq
      exact word
    split at eq
    case isTrue word =>
      cases eq
      exact word
    case isFalse => cases eq
  | string | mark => cases eq

theorem resembles_renderBehind {rest s : List Char} {ts : List Token} {stop : Nat}
    (start : ∀ u ∈ ts.head?, stop = u.start.offset → rest = s)
    (h : Resembles s (renderTokens ts).toList) : Resembles rest (renderBehind stop ts).toList := by
  cases ts with
  | nil => exact .gap .atEnd
  | cons u ts =>
    rw [renderBehind_cons]
    split
    case isTrue touch =>
      rw [start u rfl touch.symm, String.empty_append]
      exact h
    case isFalse =>
      have blank : (" " ++ renderTokens (u :: ts)).toList =
          ' ' :: (renderTokens (u :: ts)).toList :=
        String.toList_append ..
      rw [blank]
      exact .gap (.blank (by decide))

theorem Token.toList_render_boolean {t : Token} {b : Bool} (boolean : t.content = .boolean b) :
    t.render.toList = booleanName b := by
  cases b <;> simp [Token.render, boolean, Value.text, booleanName]

theorem ReadFrom.resembles {s : List Char} {ts : List Token} (h : ReadFrom s ts)
    (noString : ∀ t ∈ ts, t.kind ≠ .string) : Resembles s (renderTokens ts).toList := by
  induction ts using pairs_induction generalizing s with
  | nil => exact .gap .atEnd
  | pair a b ts ha hb _ =>
    rw [renderTokens_pair ha hb, String.toList_append]
    cases h with
    | cons read _ _ =>
      obtain ⟨more, text, rfl⟩ := Piece.exists_text_of_read read
      have spelling := Piece.isSpelling_of_read read
      rw [of_decide_eq_true ha] at spelling
      cases text.symm.trans spelling.eq_of_mark
      exact .replaced replaces_point
  | single a ts alone ih =>
    obtain ⟨first, others⟩ := List.forall_mem_cons.1 noString
    rw [renderTokens_single alone, String.toList_append]
    cases h with
    | cons read start reads =>
      have behind := resembles_renderBehind start (ih reads others)
      by_cases boolean : ∃ b, a.content = .boolean b
      · obtain ⟨b, boolean⟩ := boolean
        obtain ⟨more, text, rfl⟩ := Piece.exists_text_of_read read
        rw [boolean] at read
        have word := (Piece.of_read_boolean read).1
        rw [Token.toList_render_boolean boolean]
        cases b
        · cases text.symm.trans word
          exact .replaced replaces_false
        · cases text.symm.trans word
          exact .replaced replaces_true
      · rw [(Token.eq_of_not_boolean first (not_exists.1 boolean)).1,
          ← Piece.append_of_read read]
        exact behind.append _

/-! ## Fractions -/

theorem Token.isNumber_eq_true_iff {t : Token} :
    t.isNumber = true ↔ t.content.kind = .integer ∨ t.content.kind = .float :=
  Bool.or_eq_true_iff.trans (or_congr decide_eq_true_iff decide_eq_true_iff)

theorem stops_isDecimal_cons_iff {c : Char} {cs : List Char} :
    Stops Text.isDecimal (c :: cs) ↔ Text.isDecimal c = false := by
  simp [Stops]

theorem ReadFrom.stops_isDecimal_iff {s : List Char} {ts : List Token} (h : ReadFrom s ts)
    (noString : ∀ t ∈ ts, t.kind ≠ .string) :
    Stops Text.isDecimal (renderTokens ts).toList ↔ ∀ t ∈ ts.head?, t.isNumber = false := by
  induction ts using pairs_induction with
  | nil => exact iff_of_true nofun nofun
  | pair a b ts ha hb _ =>
    rw [renderTokens_pair ha hb, String.toList_append]
    refine iff_of_true (stops_isDecimal_cons_iff.2 (by decide)) ?_
    rintro t ⟨rfl⟩
    simp [Token.isNumber, Token.kind, of_decide_eq_true ha, Content.kind]
  | single a ts alone _ =>
    have first := (List.forall_mem_cons.1 noString).1
    rw [renderTokens_single alone, String.toList_append]
    simp only [List.head?_cons, Option.mem_def, Option.some.injEq, forall_eq']
    by_cases boolean : ∃ b, a.content = .boolean b
    · obtain ⟨b, boolean⟩ := boolean
      rw [Token.toList_render_boolean boolean]
      refine iff_of_true ?_ (by simp [Token.isNumber, Token.kind, boolean, Content.kind])
      cases b <;> exact stops_isDecimal_cons_iff.2 (by decide)
    · rw [(Token.eq_of_not_boolean first (not_exists.1 boolean)).1]
      cases h with
      | cons read _ _ =>
        obtain ⟨more, text, -⟩ := Piece.exists_text_of_read read
        have lexeme : a.lexeme.toList = _ := text
        rw [lexeme, List.cons_append, stops_isDecimal_cons_iff, ← Bool.not_eq_true,
          ← Bool.not_eq_true, Piece.isDecimal_iff_of_read read, Token.isNumber_eq_true_iff]

theorem ReadFrom.stops_isDecimal_behind_iff {s : List Char} {ts : List Token} {stop : Nat}
    (h : ReadFrom s ts) (noString : ∀ t ∈ ts, t.kind ≠ .string) :
    Stops Text.isDecimal (renderBehind stop ts).toList ↔
      ∀ t ∈ ts.head?, stop = t.start.offset → t.isNumber = false := by
  cases ts with
  | nil => exact iff_of_true nofun nofun
  | cons t ts =>
    rw [renderBehind_cons]
    split
    case isTrue touch =>
      rw [String.empty_append, h.stops_isDecimal_iff noString]
      simp [touch]
    case isFalse apart =>
      rw [String.toList_append]
      refine iff_of_true (stops_isDecimal_cons_iff.2 (by decide)) ?_
      rintro u ⟨rfl⟩ touch
      exact absurd touch.symm apart

theorem fuses_eq_false {a b : Token} {ts : List Token}
    (h : a.stop.offset ≠ b.start.offset ∨
      ∀ c ∈ ts.head?, (b.isMark .colon && c.isMark .colon) = false) :
    fuses a (b :: ts) = false := by
  unfold fuses
  split
  case h_1 eq =>
    cases eq
    rcases h with apart | alone
    · simp [apart]
    · have := alone _ rfl
      grind
  case h_2 => rfl

theorem fuses_eq_false_iff {a b c : Token} {ts : List Token} (integer : a.kind = .integer)
    (hb : b.isMark .colon = true) (hc : c.isMark .colon = true)
    (touch : a.stop.offset = b.start.offset) :
    fuses a (b :: c :: ts) = false ↔
      ∀ d ∈ ts.head?, c.stop.offset = d.start.offset → d.isNumber = false := by
  cases ts with
  | nil => exact iff_of_true rfl nofun
  | cons d ts => grind [fuses]

theorem not_point_of_apart {stop : Nat} {b : Token} {ts : List Token} {cs : List Char}
    (apart : stop ≠ b.start.offset) : (renderBehind stop (b :: ts)).toList ≠ '.' :: cs := by
  rw [renderBehind_cons, if_neg apart.symm, String.toList_append]
  intro eq
  cases eq

/-- What stands behind an integer starts with a fraction only if the two are fused. -/
theorem scanFraction_renderBehind {a : Token} {rest s : List Char} {ts : List Token}
    (integer : a.kind = .integer)
    (start : ∀ u ∈ ts.head?, a.stop.offset = u.start.offset → rest = s) (h : ReadFrom s ts)
    (noString : ∀ t ∈ ts, t.kind ≠ .string) (noFraction : (Numeral.scanFraction rest).1 = none) :
    (Numeral.scanFraction (renderBehind a.stop.offset ts).toList).1 = none ↔
      fuses a ts = false := by
  rw [Numeral.scanFraction_eq_none_iff] at noFraction ⊢
  cases ts using pairs_induction with
  | nil => exact iff_of_true nofun rfl
  | pair b c ts hb hc _ =>
    by_cases touch : a.stop.offset = b.start.offset
    case neg =>
      exact iff_of_true (fun cs eq => absurd eq (not_point_of_apart touch))
        (fuses_eq_false (.inl touch))
    rw [fuses_eq_false_iff integer hb hc touch, renderBehind_cons, if_pos touch.symm,
      String.empty_append, renderTokens_pair hb hc, String.toList_append]
    obtain ⟨_, reads⟩ := h.tail
    obtain ⟨_, reads⟩ := reads.tail
    have others : ∀ t ∈ ts, t.kind ≠ .string := fun t ht => noString t (by simp [ht])
    rw [← reads.stops_isDecimal_behind_iff others]
    simp
  | single b ts alone _ =>
    refine iff_of_true (fun cs eq => ?_) (fuses_eq_false (.inr alone))
    by_cases touch : a.stop.offset = b.start.offset
    case neg => exact absurd eq (not_point_of_apart touch)
    obtain ⟨first, others⟩ := List.forall_mem_cons.1 noString
    obtain rfl := start b rfl touch
    rw [renderBehind_cons, if_pos touch.symm, String.empty_append, renderTokens_single alone,
      String.toList_append] at eq
    by_cases boolean : ∃ b', b.content = .boolean b'
    · obtain ⟨b', boolean⟩ := boolean
      rw [Token.toList_render_boolean boolean] at eq
      cases b' <;> cases eq
    rw [(Token.eq_of_not_boolean first (not_exists.1 boolean)).1] at eq
    cases h with
    | cons read start reads =>
      have behind := resembles_renderBehind start (reads.resembles others)
      obtain ⟨more, text, rfl⟩ := Piece.exists_text_of_read read
      have lexeme : b.lexeme.toList = _ := text
      rw [lexeme] at eq
      cases eq
      -- The point is a token of its own, in the source as well.
      exact (behind.append more).stops_isDecimal (noFraction _ rfl)

/-! ## Reading again -/

theorem Piece.read_point (cs : List Char) :
    read '.' cs = .ok (.token (.mark .dot) ['.'], cs) :=
  ReadAs.eq (.mark .dot rfl fun slash => absurd slash (by decide))

theorem Piece.read_booleanName (b : Bool) {rest : List Char} (stops : Stops isNamePart rest) :
    ∃ c cs, booleanName b ++ rest = c :: cs ∧
      read c cs = .ok (.token .identifier (booleanName b), rest) := by
  cases b with
  | true =>
    exact ⟨'T', ['r', 'u', 'e'] ++ rest, rfl, read_name (by decide) (by decide) (by decide)
      (by decide) (List.all_eq_true.1 (by decide)) stops⟩
  | false =>
    exact ⟨'F', ['a', 'l', 's', 'e'] ++ rest, rfl, read_name (by decide) (by decide) (by decide)
      (by decide) (List.all_eq_true.1 (by decide)) stops⟩

theorem yields_renderBehind_iff {stop : Nat} {ts us : List Token} :
    Yields (renderBehind stop ts).toList us ↔ Yields (renderTokens ts).toList us := by
  cases ts with
  | nil => rfl
  | cons t ts =>
    rw [renderBehind_cons]
    split
    · rw [String.empty_append]
    · rw [String.toList_append]
      exact Yields.gap_iff (.blank (by decide) .nil)

/-- Where a number comes first, the first piece is that number. -/
theorem Yields.read_of_isDecimal {c : Char} {cs : List Char} {t : Token} {ts : List Token}
    (h : Yields (c :: cs) (t :: ts)) (decimal : Text.isDecimal c = true) :
    ∃ rest, Piece.read c cs = .ok (.token t.content t.lexeme.toList, rest) := by
  cases read : Piece.read c cs with
  | error a =>
    obtain ⟨ps, cut, -⟩ := h
    cases (pieces_of_read_error read).symm.trans cut
  | ok result =>
    obtain ⟨p, rest⟩ := result
    cases p with
    | gap g => cases Piece.isGap_of_isDecimal read decimal
    | fault f text =>
      obtain ⟨ps, cut, clean, -⟩ := h
      rw [pieces_cons read] at cut
      obtain ⟨qs, -, rfl⟩ := map_eq_ok.1 cut
      cases clean _ List.mem_cons_self
    | token content lexeme =>
      have spelled := ((Yields.token_iff read).1 h).1
      simp only [Token.spelled, Prod.mk.injEq] at spelled
      exact ⟨rest, by simp [spelled]⟩

theorem fuses_of_kind_ne {a : Token} (h : a.kind ≠ .integer) (ts : List Token) :
    fuses a ts = false := by
  unfold fuses
  split <;> simp [h]

theorem isApart_cons_iff {a : Token} {ts : List Token} :
    isApart (a :: ts) = true ↔ fuses a ts = false ∧ isApart ts = true := by
  simp [isApart]

/-- An integer that is fused is not read again. -/
theorem not_yields_of_fuses {a : Token} {c : Char} {cs rest s : List Char} {ts us : List Token}
    (read : Piece.read c cs = .ok (.token a.content a.lexeme.toList, rest))
    (start : ∀ u ∈ ts.head?, a.stop.offset = u.start.offset → rest = s) (h : ReadFrom s ts)
    (noString : ∀ t ∈ ts, t.kind ≠ .string) (fused : fuses a ts = true) :
    ¬ Yields (a.lexeme.toList ++ (renderBehind a.stop.offset ts).toList) (a :: us) := by
  have integer : a.kind = .integer := by
    by_contra other
    rw [fuses_of_kind_ne other] at fused
    cases fused
  obtain ⟨n, content⟩ := Token.kind_eq_integer_iff.1 integer
  have decimal : Text.isDecimal c = true := (Piece.isDecimal_iff_of_read read).2 (.inl integer)
  obtain ⟨more, text, rfl⟩ := Piece.exists_text_of_read read
  have lexeme : a.lexeme.toList = c :: more := text
  intro yields
  rw [lexeme, List.cons_append] at yields
  obtain ⟨rest', again⟩ := yields.read_of_isDecimal decimal
  rw [content] at read again
  obtain ⟨eq, whole⟩ := Piece.isWhole_of_read again
  rw [lexeme, List.cons_append, List.cons.injEq] at eq
  obtain rfl := List.append_cancel_left eq.2
  have noFraction : (Numeral.scanFraction rest).1 = none := by
    rw [(Piece.isWhole_of_read read).2.noFraction]
  have apart := (scanFraction_renderBehind integer start h noString noFraction).1
    (by rw [whole.noFraction])
  rw [apart] at fused
  cases fused

theorem ReadFrom.yields_renderTokens_iff {s : List Char} {ts : List Token} (h : ReadFrom s ts)
    (noString : ∀ t ∈ ts, t.kind ≠ .string) :
    Yields (renderTokens ts).toList (recoded ts) ↔ isApart ts = true := by
  induction ts using pairs_induction generalizing s with
  | nil => exact iff_of_true .nil rfl
  | pair a b ts ha hb ih =>
    obtain ⟨_, reads⟩ := h.tail
    obtain ⟨_, reads⟩ := reads.tail
    have others : ∀ t ∈ ts, t.kind ≠ .string := fun t ht => noString t (by simp [ht])
    have noInteger {t : Token} (ht : t.isMark .colon = true) : t.kind ≠ .integer := by
      simp [Token.kind, of_decide_eq_true ht, Content.kind]
    rw [renderTokens_pair ha hb, String.toList_append, recoded_pair ha hb]
    change Yields ('.' :: (renderBehind b.stop.offset ts).toList) _ ↔ _
    rw [Yields.token_iff (Piece.read_point _), yields_renderBehind_iff, ih reads others,
      isApart_cons_iff, isApart_cons_iff, fuses_of_kind_ne (noInteger ha),
      fuses_of_kind_ne (noInteger hb)]
    simp [Token.spelled]
  | single a ts alone ih =>
    obtain ⟨first, others⟩ := List.forall_mem_cons.1 noString
    rw [renderTokens_single alone, String.toList_append, recoded_single alone, isApart_cons_iff]
    cases h with
    | cons read start reads =>
      have behind := resembles_renderBehind start (reads.resembles others)
      by_cases boolean : ∃ b, a.content = .boolean b
      · obtain ⟨b, boolean⟩ := boolean
        have stops := behind.stops_isNamePart (Piece.of_read_boolean (boolean ▸ read)).2
        obtain ⟨c, cs, eq, again⟩ := Piece.read_booleanName b stops
        have noInteger : a.kind ≠ .integer := by simp [Token.kind, boolean, Content.kind]
        rw [Token.toList_render_boolean boolean, eq, Yields.token_iff again,
          yields_renderBehind_iff, ih reads others, fuses_of_kind_ne noInteger]
        cases b <;> simp [Token.spelled, Token.recoded, boolean, booleanName]
      obtain ⟨render, same⟩ := Token.eq_of_not_boolean first (not_exists.1 boolean)
      rw [render, same]
      cases fused : fuses a ts with
      | true => exact iff_of_false (not_yields_of_fuses read start reads others fused) (by simp)
      | false =>
        obtain ⟨cs', eq, again⟩ := Piece.read_token_of_resembles read behind
          fun integer none => (scanFraction_renderBehind integer start reads others none).2 fused
        rw [eq, Yields.token_iff again, yields_renderBehind_iff, ih reads others]
        simp [Token.spelled]

/-- The tokens of a source without strings are emitted and lexed again: they are the same, `::`
being a point and booleans being names, exactly if no integer is fused with a number behind `::`. -/
theorem lex_renderTokens_iff {file source : String} {x : Lexing} (h : lex file source = .ok x)
    (noString : ∀ t ∈ x.tokens, t.kind ≠ .string) (file' : String) :
    (∃ y, lex file' (renderTokens x.tokens) = .ok y ∧
        y.tokens.map Token.spelled = (recoded x.tokens).map Token.spelled) ↔
      isApart x.tokens = true := by
  obtain ⟨ps, hps, clean, rfl⟩ := lex_eq_ok_iff.1 h
  obtain ⟨s, reads, -⟩ := readFrom_of_pieces hps clean (.start file)
  rw [← Yields.iff_lex file', reads.yields_renderTokens_iff noString]

/-- Neither a numeral with a fraction nor an integer with a gap behind it is fused. -/
theorem lex_renderTokens_iff_apart :
    ∃ x, lex "m" "1.5::2 true::1 ::2" = .ok x ∧ (∀ t ∈ x.tokens, t.kind ≠ .string) ∧
      isApart x.tokens = true ∧ renderTokens x.tokens = "1.5.2 True.1 .2" ∧
      ∃ y, lex "n" (renderTokens x.tokens) = .ok y ∧
        y.tokens.map Token.spelled = (recoded x.tokens).map Token.spelled := by
  have cut : (lex "m" "1.5::2 true::1 ::2").map (fun x => (decide (∀ t ∈ x.tokens,
      t.kind ≠ .string), isApart x.tokens, renderTokens x.tokens)) =
        .ok (true, true, "1.5.2 True.1 .2") := by decide +kernel
  obtain ⟨x, lexed, eq⟩ := map_eq_ok.1 cut
  simp only [Prod.mk.injEq, decide_eq_true_eq] at eq
  obtain ⟨noString, apart, text⟩ := eq
  exact ⟨x, lexed, noString, apart, text, (lex_renderTokens_iff lexed noString "n").2 apart⟩

/-- Two integers with `::` between them are emitted as one number. -/
theorem lex_renderTokens_fused :
    ∃ x y, lex "m" "1::2" = .ok x ∧ (∀ t ∈ x.tokens, t.kind ≠ .string) ∧
      (recoded x.tokens).map Token.kind = [.integer, .mark .dot, .integer] ∧
      lex "m" (renderTokens x.tokens) = .ok y ∧ y.tokens.map Token.kind = [.float] := by
  have again : (lex "m" "1.2").map (fun y => y.tokens.map Token.kind) = .ok [.float] := by
    decide +kernel
  obtain ⟨y, lexed, kinds⟩ := map_eq_ok.1 again
  refine ⟨{ tokens := [⟨.integer 1, "1", ⟨"m", 1, 1, 0⟩⟩, ⟨.mark .colon, ":", ⟨"m", 1, 2, 1⟩⟩,
      ⟨.mark .colon, ":", ⟨"m", 1, 3, 2⟩⟩, ⟨.integer 2, "2", ⟨"m", 1, 4, 3⟩⟩]
            errors := []
            stop := ⟨"m", 1, 5, 4⟩ }, y, by decide +kernel, by decide, by decide, ?_, kinds⟩
  exact lexed

end ComponentMarkup
