import ComponentMarkup.Proofs.Lexing.Locality
import ComponentMarkup.Result
import ComponentMarkup.Token.Lexing
import Mathlib.Data.List.Forall2

/-!
# Pieces in their places

What becomes of pieces when they are put one behind the other, and what does not depend on where
they are put.

## Main definitions

* `Token.spelled` — a token without its place.
* `Token.Shifted` — the same token, so many characters further on.

## Main statements

* `lex_eq_ok_iff` — a source is lexed without error if none of its pieces is a fault.
* `Lexing.tokens_append` — the tokens of pieces behind other pieces.
* `Lexing.forall_mem_tokens` — what holds of each token that is read holds of all of a source.
* `Lexing.tokens_shifted` — moving pieces moves their tokens, all by the same distance.
-/

namespace ComponentMarkup

open Source (Location)

theorem forall₂_append_inv {α β : Type} {R : α → β → Prop} {as bs : List α} {cs : List β}
    (h : List.Forall₂ R (as ++ bs) cs) :
    ∃ ds es, cs = ds ++ es ∧ List.Forall₂ R as ds ∧ List.Forall₂ R bs es := by
  induction as generalizing cs with
  | nil => exact ⟨[], cs, rfl, .nil, h⟩
  | cons a as ih =>
    obtain ⟨c, cs, first, rest, rfl⟩ := List.forall₂_cons_left_iff.1 h
    obtain ⟨ds, es, rfl, left, right⟩ := ih rest
    exact ⟨c :: ds, es, rfl, .cons first left, right⟩

/-- What a token is, with the value that it stands for, and how it is written. -/
def Token.spelled (t : Token) : Content × String := (t.content, t.lexeme)

/-- The same token, `d` characters further on. -/
structure Token.Shifted (d : Nat) (t t' : Token) : Prop where
  spelled : t'.spelled = t.spelled
  offset : t'.start.offset = t.start.offset + d

theorem Token.offset_stop (t : Token) : t.stop.offset = t.start.offset + t.lexeme.toList.length :=
  Source.Location.offset_after ..

namespace Token.Shifted

variable {d : Nat} {t t' : Token}

theorem content (h : Shifted d t t') : t'.content = t.content := congrArg Prod.fst h.spelled

theorem lexeme (h : Shifted d t t') : t'.lexeme = t.lexeme := congrArg Prod.snd h.spelled

theorem stop (h : Shifted d t t') : t'.stop.offset = t.stop.offset + d := by
  rw [offset_stop, offset_stop, h.lexeme, h.offset]
  omega

end Token.Shifted

namespace Piece

def isFault : Piece → Bool
  | fault .. => true
  | _ => false

theorem isFault_of_isGap {p : Piece} (h : p.isGap = true) : p.isFault = false := by
  cases p <;> simp_all [isGap, isFault]

end Piece

/-- Where the pieces end that start at `l`. -/
def Source.Location.afterAll (l : Location) (ps : List Piece) : Location :=
  l.after (ps.flatMap Piece.text)

namespace Lexing

@[simp] theorem ofPieces_gap (l : Location) (g : List Char) (ps : List Piece) :
    ofPieces l (.gap g :: ps) = ofPieces (l.after g) ps := rfl

@[simp] theorem tokens_token (l : Location) (content : Content) (lexeme : List Char)
    (ps : List Piece) :
    (ofPieces l (.token content lexeme :: ps)).tokens =
      ⟨content, .ofList lexeme, l⟩ :: (ofPieces (l.after lexeme) ps).tokens := rfl

@[simp] theorem errors_token (l : Location) (content : Content) (lexeme : List Char)
    (ps : List Piece) :
    (ofPieces l (.token content lexeme :: ps)).errors = (ofPieces (l.after lexeme) ps).errors := rfl

theorem errors_eq_nil_iff {l : Location} {ps : List Piece} :
    (ofPieces l ps).errors = [] ↔ ∀ p ∈ ps, p.isFault = false := by
  induction ps generalizing l with
  | nil => simp [ofPieces]
  | cons p ps ih =>
    cases p with
    | gap g => simp [Piece.isFault, ih]
    | token content lexeme => simp [Piece.isFault, ih]
    | fault f text => simp [ofPieces, Piece.isFault]

theorem stop_ofPieces (l : Location) (ps : List Piece) :
    (ofPieces l ps).stop = l.afterAll ps := by
  induction ps generalizing l with
  | nil => rfl
  | cons p ps ih =>
    have behind : (ofPieces l (p :: ps)).stop = (ofPieces (l.after p.text) ps).stop := by
      cases p <;> rfl
    rw [behind, ih]
    simp [Location.afterAll]

theorem tokens_append (l : Location) (ps qs : List Piece) :
    (ofPieces l (ps ++ qs)).tokens =
      (ofPieces l ps).tokens ++ (ofPieces (l.afterAll ps) qs).tokens := by
  induction ps generalizing l with
  | nil => rfl
  | cons p ps ih =>
    have same : l.afterAll (p :: ps) = (l.after p.text).afterAll ps := by
      simp [Location.afterAll]
    rw [same]
    cases p with
    | gap g => exact ih _
    | token content lexeme => exact congrArg (_ :: ·) (ih _)
    | fault f text => exact ih _

theorem tokens_of_gaps {ps : List Piece} (gaps : ∀ p ∈ ps, p.isGap = true) (l : Location) :
    (ofPieces l ps).tokens = [] := by
  induction ps generalizing l with
  | nil => rfl
  | cons p ps ih =>
    have rest : ∀ q ∈ ps, q.isGap = true := fun q hq => gaps q (List.mem_cons_of_mem p hq)
    cases p with
    | gap g => exact ih rest _
    | token | fault => cases gaps _ List.mem_cons_self

/-- What holds of each token that is read holds of all of a source. -/
theorem forall_mem_tokens {P : Content → List Char → Prop}
    (step : ∀ {c cs content lexeme rest},
      Piece.read c cs = .ok (.token content lexeme, rest) → P content lexeme)
    {s : List Char} {ps : List Piece} (h : pieces s = .ok ps) (l : Location) :
    ∀ t ∈ (ofPieces l ps).tokens, P t.content t.lexeme.toList := by
  fun_induction pieces s generalizing ps l with
  | case1 =>
    cases h
    intro t ht
    cases ht
  | case2 => cases h
  | case3 => cases h
  | case4 c cs p rest read qs hqs ih =>
    cases h
    cases p with
    | gap g => exact ih hqs _
    | fault f text => exact ih hqs _
    | token content lexeme =>
      refine List.forall_mem_cons.2 ⟨?_, ih hqs _⟩
      rw [String.toList_ofList]
      exact step read

theorem offset_le_of_mem {l : Location} {ps : List Piece} {t : Token}
    (h : t ∈ (ofPieces l ps).tokens) : l.offset ≤ t.start.offset := by
  induction ps generalizing l with
  | nil => simp [ofPieces] at h
  | cons p ps ih =>
    have behind (h : t ∈ (ofPieces (l.after p.text) ps).tokens) : l.offset ≤ t.start.offset := by
      have := ih h
      rw [Location.offset_after] at this
      omega
    cases p with
    | gap g => exact behind h
    | token content lexeme =>
      rcases List.mem_cons.1 h with rfl | h
      · exact Nat.le_refl _
      · exact behind h
    | fault f text => exact behind h

/-- The pieces at `l` and the same pieces at `l'`, which is `d` characters further on. -/
theorem tokens_shifted {l l' : Location} {d : Nat} (h : l'.offset = l.offset + d)
    (ps : List Piece) :
    List.Forall₂ (Token.Shifted d) (ofPieces l ps).tokens (ofPieces l' ps).tokens := by
  induction ps generalizing l l' with
  | nil => exact .nil
  | cons p ps ih =>
    have behind : (l'.after p.text).offset = (l.after p.text).offset + d := by
      simp only [Location.offset_after]
      omega
    cases p with
    | gap g => exact ih behind
    | token content lexeme => exact .cons ⟨rfl, h⟩ (ih behind)
    | fault f text => exact ih behind

/-- Pieces have the same tokens in every place. -/
theorem spelled_ofPieces (l l' : Location) (ps : List Piece) :
    (ofPieces l ps).tokens.map Token.spelled = (ofPieces l' ps).tokens.map Token.spelled := by
  induction ps generalizing l l' with
  | nil => rfl
  | cons p ps ih =>
    cases p with
    | gap g => exact ih _ _
    | token content lexeme => exact congrArg (_ :: ·) (ih _ _)
    | fault f text => exact ih _ _

end Lexing

theorem lex_eq_ok_iff {file source : String} {x : Lexing} :
    lex file source = .ok x ↔
      ∃ ps, pieces source.toList = .ok ps ∧ (∀ p ∈ ps, p.isFault = false) ∧
        x = Lexing.ofPieces (.start file) ps := by
  unfold lex Lexing.ofSource
  cases hp : pieces source.toList with
  | error a => simp [Except.map]
  | ok ps =>
    have clean : (Lexing.ofPieces (.start file) ps).errors = [] ↔ _ := Lexing.errors_eq_nil_iff
    simp only [Except.map, mapError_eq_ok, Lexing.checked, Except.ok.injEq, exists_eq_left',
      ← clean]
    cases he : (Lexing.ofPieces (.start file) ps).errors with
    | nil => simp [eq_comm]
    | cons e es => simp

end ComponentMarkup
