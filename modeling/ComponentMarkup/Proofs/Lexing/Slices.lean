import ComponentMarkup.Proofs.Lexing.Assembly

/-!
# Parts of a source

A source that is cut off behind one of its tokens has the same pieces up to there, since no piece is
known by more than what the next piece starts with. So the text from one token to another has the
tokens in between, whatever stands around it.

## Main definitions

* `Span.slice` — the text that a span marks.
* `Span.Covers` — the span from the first token to the last.

## Main statements

* `Piece.read_truncate` — a piece of a source that is cut off behind it.
* `pieces_truncate` — the pieces of a source that is cut off behind a token.
* `Lexing.exists_ofSource_slice` — the tokens of a part of a source.
-/

namespace ComponentMarkup

open Source (Location Span)

/-! ## Pieces -/

namespace Piece

def isToken : Piece → Bool
  | token .. => true
  | _ => false

/-- A comment with something behind it is closed. -/
theorem splitComment_truncate {s t body rest : List Char}
    (h : splitComment (s ++ t) = (body, rest ++ t)) (ne : rest ≠ []) :
    splitComment s = (body, rest) := by
  fun_induction splitComment s generalizing body with
  | case1 =>
    have length := congrArg List.length (append_splitComment t)
    rw [List.nil_append] at h
    have := List.length_pos_iff.2 ne
    simp [h] at length
    omega
  | case2 cs =>
    rw [List.cons_append, List.cons_append, splitComment, Prod.mk.injEq,
      List.append_cancel_right_eq] at h
    rw [h.1, h.2]
  | case3 c cs noEnd body' rest' eq ih =>
    have noEnd' : ∀ ds, c = '*' → cs ++ t = '/' :: ds → False := by
      rintro ds rfl start
      cases cs with
      | nil =>
        rw [List.nil_append] at start
        subst start
        have length := congrArg (List.length ·.2) h
        simp [splitComment] at length
        omega
      | cons d cs =>
        cases start
        exact noEnd _ rfl rfl
    rw [List.cons_append, splitComment.eq_3 _ _ noEnd'] at h
    cases split : splitComment (cs ++ t) with
    | mk body'' rest'' =>
      rw [split] at h
      cases h
      rw [ih split] at eq
      cases eq
      rfl

/-- A token does not depend on where the source ends behind it. -/
theorem read_token_truncate {c : Char} {cs rest t lexeme : List Char} {content : Content}
    (h : read c (cs ++ t) = .ok (.token content lexeme, rest ++ t)) :
    read c cs = .ok (.token content lexeme, rest) := by
  have agree : Agree (rest ++ t) rest := by
    simpa using Agree.append rest (.gap .atEnd : Agree t [])
  obtain ⟨cs', eq, again⟩ := read_token_of_agree h agree
  have whole := append_of_read h
  rw [text, ← List.append_assoc, eq, List.cons_append, List.cons.injEq,
    List.append_cancel_right_eq] at whole
  rw [← whole.2]
  exact again

theorem read_gap_truncate {c : Char} {cs rest t g : List Char}
    (h : read c (cs ++ t) = .ok (.gap g, rest ++ t)) (ne : rest ≠ []) :
    read c cs = .ok (.gap g, rest) := by
  have whole := append_of_read h
  rcases read_gap_eq_ok_iff.1 h with ⟨blank, rfl, eq⟩ | ⟨ds, body, rfl, eq, split, rfl⟩
  · rw [List.append_cancel_right eq]
    exact read_blank blank cs
  · rcases cs with _ | ⟨d, cs⟩
    · -- The comment would start in the text behind and have more than that text behind it.
      have length := congrArg List.length whole
      simp [text] at length
      omega
    · cases eq
      exact read_gap_eq_ok_iff.2 (.inr ⟨cs, body, rfl, rfl, splitComment_truncate split ne, rfl⟩)

/-- A bad number takes the character behind it along, and does not depend on any other. -/
theorem NumeralAs.fault {n : Numeral} {s rest text : List Char} {f : Fault}
    (h : NumeralAs n s (.ok (.fault f text, rest))) (ne : rest ≠ []) :
    ∃ a, s = a :: rest ∧ ∀ rest', NumeralAs n (a :: rest') (.ok (.fault f text, rest')) := by
  cases s with
  | nil => cases h <;> exact absurd rfl ne
  | cons a s =>
    cases h with
    | trailingUnderscore isInteger last =>
      exact ⟨a, rfl, fun _ => .trailingUnderscore isInteger last⟩
    | outOfRange isFloat none => exact ⟨a, rfl, fun _ => .outOfRange isFloat none⟩

theorem IsSolid.of_append {c : Char} {cs t : List Char} (h : IsSolid c (cs ++ t)) :
    IsSolid c cs := by
  refine ⟨h.blank, fun slash star => h.comment slash ?_, h.detached⟩
  rw [List.head?_append, star]
  rfl

theorem read_fault_truncate {c : Char} {cs rest t text : List Char} {f : Fault}
    (h : read c (cs ++ t) = .ok (.fault f text, rest ++ t)) (ne : rest ≠ []) :
    read c cs = .ok (.fault f text, rest) := by
  generalize eq : rest ++ t = behind at h
  cases readAs_iff.2 h with
  | numeral solid scanned numeral =>
    subst eq
    obtain ⟨a, rfl, again⟩ := numeral.fault (List.append_ne_nil_of_left_ne_nil ne t)
    have agree : Agree (a :: (rest ++ t)) (a :: rest) := by
      simpa using Agree.append (a :: rest) (.gap .atEnd : Agree t [])
    obtain ⟨cs', split, solid', scanned'⟩ := solid.exists_scan_of_resembles scanned
      agree.resembles fun _ none => Numeral.scanFraction_eq_none_of_agree none agree
    have whole : c :: cs' ++ t = c :: cs ++ t := by
      rw [← split]
      simpa using Numeral.append_of_scan scanned
    cases List.append_cancel_right whole
    exact ReadAs.eq (.numeral solid' scanned' (again rest))
  | openString => exact absurd (List.append_eq_nil_iff.1 eq).1 ne
  | invalidCharacter solid decimal start quote mark =>
    rw [List.append_cancel_right eq]
    exact ReadAs.eq (.invalidCharacter solid.of_append decimal start quote mark)

/-- A piece does not depend on where the source ends behind it, if it is a token or is not the last
one. -/
theorem read_truncate {c : Char} {cs rest t : List Char} {p : Piece}
    (h : read c (cs ++ t) = .ok (p, rest ++ t)) (more : p.isToken = true ∨ rest ≠ []) :
    read c cs = .ok (p, rest) := by
  cases p with
  | token content lexeme => exact read_token_truncate h
  | gap g => exact read_gap_truncate h (more.resolve_left nofun)
  | fault f text => exact read_fault_truncate h (more.resolve_left nofun)

end Piece

theorem pieces_eq_ok_cons {s : List Char} {p : Piece} {ps : List Piece}
    (h : pieces s = .ok (p :: ps)) :
    ∃ c cs rest, s = c :: cs ∧ Piece.read c cs = .ok (p, rest) ∧ pieces rest = .ok ps := by
  cases s with
  | nil =>
    rw [pieces] at h
    cases h
  | cons c cs =>
    cases read : Piece.read c cs with
    | error a =>
      rw [pieces_of_read_error read] at h
      cases h
    | ok r =>
      obtain ⟨q, rest⟩ := r
      rw [pieces_cons read] at h
      obtain ⟨qs, hqs, eq⟩ := map_eq_ok.1 h
      cases eq
      exact ⟨c, cs, rest, rfl, read, hqs⟩

theorem pieces_drop {s : List Char} {ps qs : List Piece} (h : pieces s = .ok (ps ++ qs)) :
    pieces (qs.flatMap Piece.text) = .ok qs := by
  induction ps generalizing s with
  | nil =>
    rw [List.nil_append] at h
    rwa [text_pieces h]
  | cons p ps ih =>
    obtain ⟨c, cs, rest, -, -, behind⟩ := pieces_eq_ok_cons h
    exact ih behind

/-- A source that is cut off behind a token has the same pieces up to there. -/
theorem pieces_truncate {s : List Char} {ps qs : List Piece} (h : pieces s = .ok (ps ++ qs))
    (ends : ∀ p ∈ ps.getLast?, p.isToken = true) : pieces (ps.flatMap Piece.text) = .ok ps := by
  induction ps generalizing s with
  | nil => rw [List.flatMap_nil, pieces]
  | cons p ps ih =>
    rw [List.cons_append] at h
    obtain ⟨c, cs, rest, rfl, read, behind⟩ := pieces_eq_ok_cons h
    have ends' : ∀ q ∈ ps.getLast?, q.isToken = true := by
      intro q hq
      refine ends q ?_
      rw [List.getLast?_cons, Option.mem_def.1 hq]
      rfl
    have more : p.isToken = true ∨ ps.flatMap Piece.text ≠ [] := by
      cases ps with
      | nil => exact .inl (ends p rfl)
      | cons q ps =>
        have nonempty := Piece.text_ne_nil_of_mem_pieces behind q (by simp)
        exact .inr (by simp [nonempty])
    have whole := Piece.append_of_read read
    rw [← text_pieces behind, List.flatMap_append] at whole read
    cases text : p.text with
    | nil => exact absurd text (Piece.text_ne_nil_of_read read)
    | cons d ds =>
      rw [text, ← List.append_assoc, List.cons_append, List.cons_append, List.cons.injEq] at whole
      obtain ⟨rfl, rfl⟩ := whole
      rw [List.flatMap_cons, text, List.cons_append, pieces_cons (Piece.read_truncate read more),
        ih behind ends']
      rfl

/-! ## Tokens -/

namespace Lexing

theorem afterAll_cons (l : Location) (p : Piece) (ps : List Piece) :
    l.afterAll (p :: ps) = (l.after p.text).afterAll ps := by
  simp [Location.afterAll]

/-- The piece that a token comes from, and the pieces that the tokens around it come from. -/
theorem exists_pieces_of_tokens {l : Location} {ps : List Piece} {ts us : List Token} {t : Token}
    (h : (ofPieces l ps).tokens = ts ++ t :: us) :
    ∃ qs rs, ps = qs ++ .token t.content t.lexeme.toList :: rs ∧ (ofPieces l qs).tokens = ts ∧
      l.afterAll qs = t.start ∧ (ofPieces t.stop rs).tokens = us := by
  induction ps generalizing l ts with
  | nil => simp [ofPieces] at h
  | cons p ps ih =>
    cases p with
    | gap g =>
      obtain ⟨qs, rs, rfl, before, place, behind⟩ := ih h
      exact ⟨.gap g :: qs, rs, rfl, before, (afterAll_cons ..).trans place, behind⟩
    | fault f text =>
      obtain ⟨qs, rs, rfl, before, place, behind⟩ := ih h
      exact ⟨.fault f text :: qs, rs, rfl, before, (afterAll_cons ..).trans place, behind⟩
    | token content lexeme =>
      cases ts with
      | nil =>
        rw [tokens_token, List.nil_append, List.cons.injEq] at h
        obtain ⟨rfl, rfl⟩ := h
        exact ⟨[], ps, by simp, rfl, rfl, by simp [Token.stop]⟩
      | cons u ts =>
        rw [tokens_token, List.cons_append, List.cons.injEq] at h
        obtain ⟨rfl, rest⟩ := h
        obtain ⟨qs, rs, rfl, before, place, behind⟩ := ih rest
        exact ⟨.token content lexeme :: qs, rs, rfl, by rw [tokens_token, before],
          (afterAll_cons ..).trans place, behind⟩

/-- Tokens in a row come from pieces in a row, the last of which is a token. -/
theorem exists_pieces_of_infix {l : Location} {ps : List Piece} {ts : List Token} {t u : Token}
    (inside : ts <:+: (ofPieces l ps).tokens) (first : ts.head? = some t)
    (last : ts.getLast? = some u) :
    ∃ qs ms rs, ps = qs ++ (ms ++ rs) ∧ (∀ p ∈ ms.getLast?, p.isToken = true) ∧
      l.afterAll qs = t.start ∧ t.start.afterAll ms = u.stop ∧
      (ofPieces t.start ms).tokens = ts := by
  obtain ⟨before, behind, eq⟩ := inside
  obtain ⟨front, rfl⟩ := List.getLast?_eq_some_iff.1 last
  obtain ⟨more, whole⟩ := List.head?_eq_some_iff.1 first
  -- Cut off behind the last token, and then in front of the first one.
  have whole' : (ofPieces l ps).tokens = (before ++ front) ++ u :: behind := by
    simpa using eq.symm
  obtain ⟨qs, rs, rfl, tokens, place, -⟩ := exists_pieces_of_tokens whole'
  have upTo : (ofPieces l (qs ++ [.token u.content u.lexeme.toList])).tokens =
      before ++ t :: more := by
    rw [tokens_append, tokens, place, ← whole]
    simp [ofPieces]
  obtain ⟨qs', rs', split, -, start, tokens'⟩ := exists_pieces_of_tokens upTo
  refine ⟨qs', .token t.content t.lexeme.toList :: rs', rs, ?_, ?_, start, ?_, ?_⟩
  · rw [← List.append_assoc, ← split, List.append_assoc]
    rfl
  · intro p hp
    have last' := congrArg List.getLast? split
    rw [List.getLast?_append, List.getLast?_append, Option.mem_def.1 hp] at last'
    cases last'
    rfl
  · have atEnd := congrArg l.afterAll split
    simp only [Location.afterAll, List.flatMap_append, Location.after_append] at atEnd place start ⊢
    rw [place, start] at atEnd
    simpa [Piece.text, Token.stop] using atEnd.symm
  · rw [tokens_token, whole]
    simpa [Token.stop] using tokens'

end Lexing

/-! ## Parts of a source -/

namespace Source.Span

/-- The text of a source from the start of a span to its end. -/
def slice (x : Span) (source : List Char) : List Char :=
  (source.drop x.start.offset).take (x.stop.offset - x.start.offset)

/-- From the start of the first token to the end of the last. -/
structure Covers (x : Span) (ts : List Token) : Prop where
  first : ∃ t, ts.head? = some t ∧ x.start = t.start
  last : ∃ t, ts.getLast? = some t ∧ x.stop = t.stop

end Source.Span

/-- The text under some tokens of a source is lexed to these tokens again, without the errors that
the rest of the source may have. -/
theorem Lexing.exists_ofSource_slice {file : String} {source : List Char} {x : Lexing}
    (h : ofSource file source = .ok x) {ts : List Token} {span : Span}
    (inside : ts <:+: x.tokens) (covers : span.Covers ts) (file' : String) :
    ∃ y, ofSource file' (span.slice source) = .ok y ∧
      List.Forall₂ (Token.Shifted span.start.offset) y.tokens ts ∧
      (x.errors = [] → y.errors = []) := by
  obtain ⟨ps, hps, rfl⟩ := map_eq_ok.1 h
  obtain ⟨⟨t, first, start⟩, ⟨u, last, stop⟩⟩ := covers
  obtain ⟨qs, ms, rs, rfl, ends, before, behind, tokens⟩ :=
    exists_pieces_of_infix inside first last
  have cut : pieces (ms.flatMap Piece.text) = .ok ms := pieces_truncate (pieces_drop hps) ends
  have text : span.slice source = ms.flatMap Piece.text := by
    have offset := congrArg Location.offset before
    have length := congrArg Location.offset behind
    simp only [Location.afterAll, Location.offset_after, Location.start, Nat.zero_add]
      at offset length
    rw [Span.slice, start, stop, ← text_pieces hps, List.flatMap_append, List.flatMap_append,
      ← offset, List.drop_left, ← length, ← offset, Nat.add_sub_cancel_left, List.take_left]
  refine ⟨ofPieces (.start file') ms, by rw [text, ofSource, cut]; rfl, ?_, ?_⟩
  · rw [← tokens, start]
    exact tokens_shifted (Nat.zero_add _).symm ms
  · rw [errors_eq_nil_iff, errors_eq_nil_iff]
    exact fun clean p hp => clean p (by simp [hp])

end ComponentMarkup
