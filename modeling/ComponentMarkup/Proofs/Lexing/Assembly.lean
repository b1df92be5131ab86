import ComponentMarkup.Proofs.Lexing.Placement

/-!
# Texts that are put together

A text that ends with a token is cut into the same pieces when a gap and other texts come behind it.
So the tokens of several texts in a row are the tokens of each, only further on.

## Main definitions

* `IsPart` — a text with a token at its end.
* `AreTokensOf` — the tokens of a text, wherever it stands.
* `Laid` — texts in a row with a gap between any two.
* `Lexing.EndsInToken` — a source without a gap at its end.

## Main statements

* `pieces_append` — the pieces of two texts in a row.
* `tokens_of_laid` — the tokens of texts in a row.
* `isPart_of_lex`, `shifted_of_lex` — a source as a part of another one.
-/

namespace ComponentMarkup

open Source (Location)

namespace Piece

theorem splitComment_of_append {s body rest : List Char} (h : splitComment s = (body, rest))
    (ne : rest ≠ []) (t : List Char) : splitComment (s ++ t) = (body, rest ++ t) := by
  fun_induction splitComment s generalizing body rest with
  | case1 =>
    cases h
    exact absurd rfl ne
  | case2 cs =>
    cases h
    rfl
  | case3 c cs noEnd body' rest' eq ih =>
    cases h
    have noEnd' : ∀ ds, c = '*' → cs ++ t = '/' :: ds → False := by
      rintro ds rfl start
      cases cs with
      | nil =>
        cases eq
        exact ne rfl
      | cons d cs =>
        cases start
        exact noEnd _ rfl rfl
    rw [List.cons_append, splitComment.eq_3 _ _ noEnd', ih eq ne]

/-- A gap that is read is a blank or a comment. -/
theorem read_gap_eq_ok_iff {c : Char} {cs g rest : List Char} :
    read c cs = .ok (.gap g, rest) ↔
      Text.isBlank c = true ∧ g = [c] ∧ rest = cs ∨
        ∃ ds body, c = '/' ∧ cs = '*' :: ds ∧ splitComment ds = (body, rest) ∧
          g = '/' :: '*' :: body := by
  constructor
  · intro h
    cases readAs_iff.2 h with
    | blank blank => exact .inl ⟨blank, rfl, rfl⟩
    | comment slash star split => exact .inr ⟨_, _, slash, star, split, rfl⟩
    | numeral _ _ numeral => cases numeral
  · rintro (⟨blank, rfl, rfl⟩ | ⟨ds, body, slash, star, split, rfl⟩)
    · exact read_blank blank _
    · exact ReadAs.eq (.comment slash star split)

/-- A gap with something behind it is a blank or a comment that is closed. -/
theorem read_gap_append {c : Char} {cs g rest : List Char} (h : read c cs = .ok (.gap g, rest))
    (ne : rest ≠ []) (t : List Char) : read c (cs ++ t) = .ok (.gap g, rest ++ t) := by
  rcases read_gap_eq_ok_iff.1 h with ⟨blank, rfl, rfl⟩ | ⟨ds, body, rfl, rfl, split, rfl⟩
  · exact read_blank blank _
  · exact read_gap_eq_ok_iff.2
      (.inr ⟨ds ++ t, body, rfl, rfl, splitComment_of_append split ne t, rfl⟩)

end Piece

theorem pieces_append {s t : List Char} {ps : List Piece} (h : pieces s = .ok ps)
    (clean : ∀ p ∈ ps, p.isFault = false) (ends : ∀ p ∈ ps.getLast?, p.isGap = false)
    (off : BreaksOff t) : pieces (s ++ t) = (pieces t).map (ps ++ ·) := by
  fun_induction pieces s generalizing ps with
  | case1 =>
    cases h
    cases ht : pieces t <;> simp [ht, Except.map]
  | case2 => cases h
  | case3 => cases h
  | case4 c cs p rest read qs hqs ih =>
    cases h
    have clean' : ∀ q ∈ qs, q.isFault = false := fun q hq => clean q (List.mem_cons_of_mem p hq)
    have ends' : ∀ q ∈ qs.getLast?, q.isGap = false := by
      intro q hq
      refine ends q ?_
      cases qs with
      | nil => cases hq
      | cons q' qs => simpa using hq
    have text := Piece.append_of_read read
    have first : Piece.read c (cs ++ t) = .ok (p, rest ++ t) := by
      cases p with
      | fault f text => cases clean _ List.mem_cons_self
      | gap g =>
        refine Piece.read_gap_append read ?_ t
        rintro rfl
        rw [pieces] at hqs
        cases hqs
        cases ends _ rfl
      | token content lexeme =>
        have agree : Agree rest (rest ++ t) := by
          simpa using Agree.append rest (.gap off : Agree [] t)
        obtain ⟨cs', eq, read'⟩ := Piece.read_token_of_agree read agree
        have whole : lexeme ++ rest = c :: cs := text
        rw [← List.append_assoc, whole, List.cons_append, List.cons.injEq] at eq
        rw [eq.2]
        exact read'
    rw [List.cons_append, pieces_cons first, ih hqs clean' ends']
    cases pieces t <;> rfl

/-! ## Parts -/

/-- A text that is cut into pieces without a fault, the last one a token. -/
def IsPart (s : List Char) : Prop :=
  ∃ ps, pieces s = .ok ps ∧ (∀ p ∈ ps, p.isFault = false) ∧ ∀ p ∈ ps.getLast?, p.isGap = false

/-- The tokens of a text, wherever it starts. -/
def AreTokensOf (s : List Char) (ts : List Token) : Prop :=
  ∃ ps l, pieces s = .ok ps ∧ ts = (Lexing.ofPieces l ps).tokens

/-- The texts in a row, with a gap between any two. -/
inductive Laid : List (List Char) → List Char → Prop where
  | last (part : List Char) : Laid [part] part
  | cons {part next g s : List Char} {parts : List (List Char)} :
      Gap g → g ≠ [] → Laid (next :: parts) s → Laid (part :: next :: parts) (part ++ (g ++ s))

/-- Each text in the row has its own tokens. -/
theorem tokens_of_laid {parts : List (List Char)} {s : List Char} (h : Laid parts s)
    (hparts : ∀ part ∈ parts, IsPart part) :
    ∃ ps, pieces s = .ok ps ∧ (∀ p ∈ ps, p.isFault = false) ∧ ∀ l, ∃ tss,
      (Lexing.ofPieces l ps).tokens = tss.flatten ∧ List.Forall₂ AreTokensOf parts tss := by
  induction h with
  | last part =>
    obtain ⟨ps, hps, clean, -⟩ := hparts part List.mem_cons_self
    refine ⟨ps, hps, clean, fun l => ⟨[(Lexing.ofPieces l ps).tokens], by simp, ?_⟩⟩
    exact .cons ⟨ps, l, hps, rfl⟩ .nil
  | @cons part next g s parts hg ne _ ih =>
    obtain ⟨⟨ps, hps, clean, ends⟩, rest⟩ := List.forall_mem_cons.1 hparts
    obtain ⟨qs, hqs, clean', tokens⟩ := ih rest
    obtain ⟨gaps, allGaps, cut⟩ := pieces_gap hg
    refine ⟨ps ++ (gaps ++ qs), ?_, ?_, fun l => ?_⟩
    · rw [pieces_append hps clean ends (hg.breaksOff ne s), cut, hqs]
      rfl
    · intro p hp
      rcases List.mem_append.1 hp with hp | hp
      · exact clean p hp
      rcases List.mem_append.1 hp with hp | hp
      · exact Piece.isFault_of_isGap (allGaps p hp)
      · exact clean' p hp
    · obtain ⟨tss, eq, each⟩ := tokens ((l.afterAll ps).afterAll gaps)
      refine ⟨(Lexing.ofPieces l ps).tokens :: tss, ?_, .cons ⟨ps, l, hps, rfl⟩ each⟩
      rw [Lexing.tokens_append, Lexing.tokens_append, Lexing.tokens_of_gaps allGaps,
        List.nil_append, eq, List.flatten_cons]

/-! ## Sources as parts -/

namespace Lexing

/-- Nothing stands behind the last token. -/
def EndsInToken (x : Lexing) : Prop := ∀ t ∈ x.tokens.getLast?, t.stop.offset = x.stop.offset

theorem stop_le_of_mem {l : Location} {ps : List Piece} {t : Token}
    (h : t ∈ (ofPieces l ps).tokens) : t.stop.offset ≤ (l.afterAll ps).offset := by
  induction ps generalizing l with
  | nil => cases h
  | cons p ps ih =>
    have behind (h : t ∈ (ofPieces (l.after p.text) ps).tokens) :
        t.stop.offset ≤ (l.afterAll (p :: ps)).offset := by
      have := ih h
      simp only [Location.afterAll, Location.offset_after, List.flatMap_cons,
        List.length_append] at this ⊢
      omega
    cases p with
    | gap g => exact behind h
    | token content lexeme =>
      rcases List.mem_cons.1 h with rfl | h
      · simp only [Token.stop, Location.afterAll, Location.offset_after, String.toList_ofList,
          List.flatMap_cons, Piece.text, List.length_append]
        omega
      · exact behind h
    | fault f text => exact behind h

end Lexing

theorem Piece.text_ne_nil_of_mem_pieces {s : List Char} {ps : List Piece} (h : pieces s = .ok ps) :
    ∀ p ∈ ps, p.text ≠ [] := by
  fun_induction pieces s generalizing ps with
  | case1 =>
    cases h
    exact List.forall_mem_nil _
  | case2 => cases h
  | case3 => cases h
  | case4 c cs p rest read qs hqs ih =>
    cases h
    exact List.forall_mem_cons.2 ⟨Piece.text_ne_nil_of_read read, ih hqs⟩

/-- A source without a gap at its end is a part. -/
theorem isPart_of_lex {file source : String} {x : Lexing} (h : lex file source = .ok x)
    (ends : x.EndsInToken) (ne : x.tokens ≠ []) : IsPart source.toList := by
  obtain ⟨ps, hps, clean, rfl⟩ := lex_eq_ok_iff.1 h
  refine ⟨ps, hps, clean, fun p hp => ?_⟩
  obtain ⟨qs, rfl⟩ := List.getLast?_eq_some_iff.1 hp
  cases p with
  | token | fault => rfl
  | gap g =>
    have tokens : (Lexing.ofPieces (.start file) (qs ++ [.gap g])).tokens =
        (Lexing.ofPieces (.start file) qs).tokens := by
      simp [Lexing.tokens_append, Lexing.ofPieces]
    -- The last token would end where the gap starts, and the gap is not empty.
    cases hlast : (Lexing.ofPieces (.start file) qs).tokens.getLast? with
    | none =>
      rw [tokens] at ne
      exact absurd (List.getLast?_eq_none_iff.1 hlast) ne
    | some t =>
      have inside := Lexing.stop_le_of_mem (List.mem_of_getLast? hlast)
      have atEnd := ends t (by rw [tokens]; exact hlast)
      have nonempty := Piece.text_ne_nil_of_mem_pieces hps (.gap g) (by simp)
      rw [Lexing.stop_ofPieces] at atEnd
      simp only [Location.afterAll, Location.offset_after, List.flatMap_append,
        List.length_append, List.flatMap_cons, List.flatMap_nil, Piece.text]
        at inside atEnd nonempty
      have := List.length_pos_iff.2 nonempty
      omega

/-- The tokens of a source in another place. -/
theorem shifted_of_lex {file source : String} {x : Lexing} (h : lex file source = .ok x)
    {ts : List Token} (tokens : AreTokensOf source.toList ts) :
    ∃ d, List.Forall₂ (Token.Shifted d) x.tokens ts := by
  obtain ⟨ps, hps, -, rfl⟩ := lex_eq_ok_iff.1 h
  obtain ⟨qs, l, hqs, rfl⟩ := tokens
  cases hps.symm.trans hqs
  exact ⟨l.offset, Lexing.tokens_shifted (Nat.zero_add _).symm ps⟩

end ComponentMarkup
