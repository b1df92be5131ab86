import ComponentMarkup.Proofs.Lexing.Placement

/-!
# Laying a source out anew

The tokens of a source stay the same when it is written with other blanks and comments between
them, as long as tokens that did not touch each other do not come to touch.

## Main definitions

* `Spaced` — texts that are the lexemes of tokens with gaps between them.
* `Yields` — a text that has given tokens, wherever it stands.
* `ReadFrom` — tokens with the texts that they are read from.

## Main statements

* `Yields.gap_iff`, `Yields.token_iff` — the tokens of a text behind a gap or a token.
* `readFrom_of_pieces` — the tokens of a source are read from it.
* `lex_of_spaced` — such a text is lexed to the same tokens.
-/

namespace ComponentMarkup

open Source (Location)

/-- The lexemes of the tokens in order, with a gap behind each. The gap between two tokens is empty
only if they touch each other where they come from. -/
inductive Spaced : List Token → List Char → Prop where
  | nil : Spaced [] []
  | last {t : Token} {g : List Char} : Gap g → Spaced [t] (t.lexeme.toList ++ g)
  | cons {t u : Token} {ts : List Token} {g s : List Char} :
      Gap g → (g = [] → t.stop.offset = u.start.offset) → Spaced (u :: ts) s →
      Spaced (t :: u :: ts) (t.lexeme.toList ++ (g ++ s))

/-- A text that is cut into pieces without a fault, its tokens being `ts` but for their places. -/
def Yields (s : List Char) (ts : List Token) : Prop :=
  ∃ ps, pieces s = .ok ps ∧ (∀ p ∈ ps, p.isFault = false) ∧
    ∀ l, (Lexing.ofPieces l ps).tokens.map Token.spelled = ts.map Token.spelled

namespace Yields

theorem nil : Yields [] [] := ⟨[], by rw [pieces], by simp, fun _ => rfl⟩

theorem gap_iff {g s : List Char} {ts : List Token} (hg : Gap g) :
    Yields (g ++ s) ts ↔ Yields s ts := by
  obtain ⟨gaps, allGaps, cut⟩ := pieces_gap hg
  have tokens (l : Location) (ps : List Piece) :
      (Lexing.ofPieces l (gaps ++ ps)).tokens = (Lexing.ofPieces (l.afterAll gaps) ps).tokens := by
    rw [Lexing.tokens_append, Lexing.tokens_of_gaps allGaps, List.nil_append]
  have clean (ps : List Piece) :
      (∀ p ∈ gaps ++ ps, p.isFault = false) ↔ ∀ p ∈ ps, p.isFault = false := by
    simp only [List.forall_mem_append, and_iff_right_iff_imp]
    exact fun _ p hp => Piece.isFault_of_isGap (allGaps p hp)
  constructor
  · rintro ⟨ps, hps, clean', spelled⟩
    rw [cut] at hps
    obtain ⟨qs, hqs, rfl⟩ := map_eq_ok.1 hps
    refine ⟨qs, hqs, (clean qs).1 clean', fun l => ?_⟩
    rw [Lexing.spelled_ofPieces l (l.afterAll gaps), ← tokens, spelled]
  · rintro ⟨ps, hps, clean', spelled⟩
    exact ⟨gaps ++ ps, by rw [cut, hps]; rfl, (clean ps).2 clean', fun l => by
      rw [tokens, spelled]⟩

theorem token_iff {c : Char} {cs rest lexeme : List Char} {content : Content} {t : Token}
    {ts : List Token} (hread : Piece.read c cs = .ok (.token content lexeme, rest)) :
    Yields (c :: cs) (t :: ts) ↔ t.spelled = (content, .ofList lexeme) ∧ Yields rest ts := by
  constructor
  · rintro ⟨ps, hps, clean, spelled⟩
    rw [pieces_cons hread] at hps
    obtain ⟨qs, hqs, rfl⟩ := map_eq_ok.1 hps
    have first (l : Location) := spelled l
    simp only [Lexing.tokens_token, List.map_cons, List.cons.injEq] at first
    refine ⟨(first (.start "")).1.symm, qs, hqs, (List.forall_mem_cons.1 clean).2, fun l => ?_⟩
    rw [Lexing.spelled_ofPieces l (l.after lexeme), (first l).2]
  · rintro ⟨first, ps, hps, clean, spelled⟩
    refine ⟨.token content lexeme :: ps, by rw [pieces_cons hread, hps]; rfl,
      List.forall_mem_cons.2 ⟨rfl, clean⟩, fun l => ?_⟩
    rw [Lexing.tokens_token, List.map_cons, List.map_cons, spelled, first]
    rfl

/-- A text that is lexed without error has the tokens of its pieces. -/
theorem iff_lex (file : String) {s : String} {ts : List Token} :
    Yields s.toList ts ↔
      ∃ y, lex file s = .ok y ∧ y.tokens.map Token.spelled = ts.map Token.spelled := by
  constructor
  · rintro ⟨ps, hps, clean, spelled⟩
    exact ⟨_, lex_eq_ok_iff.2 ⟨ps, hps, clean, rfl⟩, spelled _⟩
  · rintro ⟨y, lexed, spelled⟩
    obtain ⟨ps, hps, clean, rfl⟩ := lex_eq_ok_iff.1 lexed
    exact ⟨ps, hps, clean, fun l => by rw [Lexing.spelled_ofPieces l (.start file), spelled]⟩

end Yields

theorem Gap.agree {g s x : List Char} (h : Gap g) (touch : g = [] → Agree x s) :
    Agree x (g ++ s) := by
  by_cases empty : g = []
  · simpa [empty] using touch empty
  · exact .gap (h.breaksOff empty s)

/-! ## Tokens with their texts -/

/-- The first token is read from the start of the text, and the next one from where it ends if they
touch. -/
inductive ReadFrom : List Char → List Token → Prop where
  | nil (s : List Char) : ReadFrom s []
  | cons {t : Token} {c : Char} {cs rest s : List Char} {ts : List Token} :
      Piece.read c cs = .ok (.token t.content t.lexeme.toList, rest) →
      (∀ u ∈ ts.head?, t.stop.offset = u.start.offset → rest = s) → ReadFrom s ts →
      ReadFrom (c :: cs) (t :: ts)

theorem ReadFrom.tail {s : List Char} {t : Token} {ts : List Token} (h : ReadFrom s (t :: ts)) :
    ∃ s', ReadFrom s' ts := by
  cases h with
  | cons _ _ reads => exact ⟨_, reads⟩

/-- The induction is on the pieces of the source. The first token is read from its start only if no
gap comes before that token. -/
theorem readFrom_of_pieces {s : List Char} {ps : List Piece} (h : pieces s = .ok ps)
    (clean : ∀ p ∈ ps, p.isFault = false) (l : Location) :
    ∃ s', ReadFrom s' (Lexing.ofPieces l ps).tokens ∧
      ∀ t ∈ (Lexing.ofPieces l ps).tokens.head?, t.start.offset = l.offset → s = s' := by
  fun_induction pieces s generalizing ps l with
  | case1 =>
    cases h
    refine ⟨[], .nil _, fun t first => ?_⟩
    cases first
  | case2 => cases h
  | case3 => cases h
  | case4 c cs p rest hread qs hqs ih =>
    cases h
    have clean' : ∀ q ∈ qs, q.isFault = false := fun q hq => clean q (List.mem_cons_of_mem p hq)
    cases p with
    | fault f text => cases clean _ List.mem_cons_self
    | gap g =>
      obtain ⟨s', reads, -⟩ := ih hqs clean' (l.after g)
      refine ⟨s', reads, fun t ht first => ?_⟩
      have further : (l.after g).offset ≤ t.start.offset :=
        Lexing.offset_le_of_mem (show t ∈ (Lexing.ofPieces (l.after g) qs).tokens from
          List.mem_of_mem_head? ht)
      have nonempty := List.length_pos_iff.2 (Piece.text_ne_nil_of_read hread)
      simp only [Location.offset_after, Piece.text] at further nonempty
      omega
    | token content lexeme =>
      obtain ⟨s', reads, start⟩ := ih hqs clean' (l.after lexeme)
      refine ⟨c :: cs, .cons (by simpa using hread) (fun u hu touch => ?_) reads, fun _ _ _ => rfl⟩
      refine start u hu ?_
      rw [← touch, Token.offset_stop, Location.offset_after, String.toList_ofList]

/-- A token is put in front of a text that agrees with what stood behind it. -/
theorem Yields.lexeme_append {t : Token} {c : Char} {cs rest behind : List Char}
    {ts : List Token} (read : Piece.read c cs = .ok (.token t.content t.lexeme.toList, rest))
    (agree : Agree rest behind) (h : Yields behind ts) :
    Yields (t.lexeme.toList ++ behind) (t :: ts) ∧ Agree (c :: cs) (t.lexeme.toList ++ behind) := by
  obtain ⟨cs', eq, read'⟩ := Piece.read_token_of_agree read agree
  rw [eq]
  refine ⟨(token_iff read').2 ⟨by simp [Token.spelled], h⟩, ?_⟩
  rw [← eq, ← Piece.append_of_read read]
  exact agree.append _

/-- The lexemes in other places, with the same tokens as before. -/
theorem ReadFrom.yields {s s' : List Char} {ts : List Token} (h : ReadFrom s ts)
    (spaced : Spaced ts s') : Yields s' ts ∧ Agree s s' := by
  induction spaced generalizing s with
  | nil => exact ⟨.nil, .gap .atEnd⟩
  | @last t g hg =>
    cases h with
    | cons read _ _ =>
      have behind : Yields g [] := by simpa using (Yields.gap_iff hg).2 .nil
      refine Yields.lexeme_append read ?_ behind
      simpa using hg.agree (s := []) fun _ => .gap .atEnd
  | cons hg touch _ ih =>
    cases h with
    | cons read start reads =>
      obtain ⟨yields, agree⟩ := ih reads
      refine Yields.lexeme_append read (hg.agree fun empty => ?_) ((Yields.gap_iff hg).2 yields)
      rw [start _ rfl (touch empty)]
      exact agree

/-- A source that is lexed without error, and the same lexemes laid out anew: `lead` stands before
the first one, and tokens come to touch only if they did before. -/
theorem lex_of_spaced {file file' source : String} {x : Lexing} {lead s : List Char}
    (h : lex file source = .ok x) (hlead : Gap lead) (spaced : Spaced x.tokens s) :
    ∃ y, lex file' (.ofList (lead ++ s)) = .ok y ∧
      y.all.map Token.spelled = x.all.map Token.spelled := by
  obtain ⟨ps, hps, clean, rfl⟩ := lex_eq_ok_iff.1 h
  obtain ⟨s', reads, -⟩ := readFrom_of_pieces hps clean (.start file)
  have yields := (Yields.gap_iff hlead).2 (reads.yields spaced).1
  rw [← String.toList_ofList (l := lead ++ s)] at yields
  obtain ⟨y, lexed, tokens⟩ := (Yields.iff_lex file').1 yields
  refine ⟨y, lexed, ?_⟩
  simp only [Lexing.all, List.map_append, tokens]
  rfl

/-- `1e+ 5` is four tokens, since an exponent does not go on behind a gap. They are still the same
four with gaps in front of them, before the `+` and in place of the blank. -/
theorem lex_of_spaced_exponent :
    ∃ y, lex "m" "\t1e/* 5 */+/**/5" = .ok y ∧ y.all.map Token.spelled =
      [(.integer 1, "1"), (.identifier, "e"), (.mark .plus, "+"), (.integer 5, "5"),
        (.eof, "")] := by
  have source : lex "m" "1e+ 5" = .ok {
      tokens := [⟨.integer 1, "1", ⟨"m", 1, 1, 0⟩⟩, ⟨.identifier, "e", ⟨"m", 1, 2, 1⟩⟩,
        ⟨.mark .plus, "+", ⟨"m", 1, 3, 2⟩⟩, ⟨.integer 5, "5", ⟨"m", 1, 5, 4⟩⟩]
      errors := []
      stop := ⟨"m", 1, 6, 5⟩ } := by decide +kernel
  have comment : Gap ("/* 5 */".toList) :=
    @Gap.comment [' ', '5', ' '] [] (by decide) .nil
  have empty : Gap ("/**/".toList) := @Gap.comment [] [] (by decide) .nil
  have text : "\t1e/* 5 */+/**/5" = String.ofList ("\t".toList ++ ("1".toList ++ ([] ++
      ("e".toList ++ ("/* 5 */".toList ++ ("+".toList ++ ("/**/".toList ++
        ("5".toList ++ [])))))))) := by decide +kernel
  rw [text]
  exact lex_of_spaced source (.blank (by decide) .nil)
    (.cons .nil (fun _ => rfl) (.cons comment nofun (.cons empty nofun (.last .nil))))

end ComponentMarkup
