import ComponentMarkup.Proofs.Lexing.Munching
import ComponentMarkup.Proofs.Lexing.Recovery

/-!
# Sources with faults, character by character

Reading goes on behind a fault, so a source with faults is still made of tokens, gaps and what the
errors are about. Only the character behind the literal of a bad number can be in none of them: it
is taken along with the literal, without being a part of it.

## Main definitions

* `LexError.HasRegion` — the text that an error is about.
* `Tiled` — a text as tokens, errors and gaps, with the places of the characters that are in none.
* `Lexing.skipped` — the places behind the literals of bad numbers, unless a blank stands there.

## Main statements

* `Piece.faultAt_of_read` — a fault that is read.
* `Tiled.tail_of_gap`, `Tiled.not_behind` — what is known of a text that is tiled without a loss.
* `tiled_iff_of_ofSource` — the characters that are lost are those behind a bad number.
-/

namespace ComponentMarkup

open Source (Location)

/-! ## Regions -/

/-- The literal of a bad number. -/
def Fault.literal? : Fault → Option (List Char)
  | trailingUnderscore lexeme => some lexeme
  | outOfRange lexeme => some lexeme
  | _ => none

namespace LexError

/-- What an error is about, of the text that starts at its place: one character, a string up to the
end of the source, or the literal that the message names. -/
inductive HasRegion (e : LexError) : (region behind : List Char) → Prop where
  | character {c : Char} {behind : List Char} : e.diagnostic.code = some "L001" →
      e.diagnostic.message = s!"Invalid character: '{c}'" → HasRegion e [c] behind
  | string {cs : List Char} : e.diagnostic.code = some "L002" → HasRegion e ('"' :: cs) []
  | literal {lexeme behind : List Char} : e.diagnostic.code = some "L003" →
      e.diagnostic.message = s!"Invalid numeric literal: '{String.ofList lexeme}'" →
      HasRegion e lexeme behind

variable {e : LexError}

theorem code_diagnostic (e : LexError) : e.diagnostic.code = some (match e.fault with
    | .invalidCharacter _ => "L001"
    | .unterminatedString => "L002"
    | .trailingUnderscore _ | .outOfRange _ => "L003") := by
  obtain ⟨fault, l⟩ := e
  cases fault <;> rfl

theorem diagnostic_of_literal? {lexeme : List Char} (h : e.fault.literal? = some lexeme) :
    e.diagnostic.code = some "L003" ∧
      e.diagnostic.message = s!"Invalid numeric literal: '{String.ofList lexeme}'" := by
  obtain ⟨fault, l⟩ := e
  cases fault <;> cases h <;> exact ⟨rfl, rfl⟩

/-- An error about a bad number is about no more and no less than the literal. -/
theorem HasRegion.eq_of_literal? {lexeme region behind : List Char}
    (h : e.HasRegion region behind) (literal : e.fault.literal? = some lexeme) :
    region = lexeme := by
  obtain ⟨code, message⟩ := diagnostic_of_literal? literal
  cases h with
  | character code' | string code' =>
    rw [code] at code'
    exact absurd code' (by decide)
  | literal _ message' =>
    rw [message] at message'
    simpa [← String.toList_inj, toString] using message'.symm

end LexError

/-! ## Faults that are read -/

namespace Piece

/-- The fault at the start of a text, its text and the text behind it. -/
inductive FaultAt : List Char → Fault → (text rest : List Char) → Prop where
  | character {c : Char} {cs : List Char} : FaultAt (c :: cs) (.invalidCharacter c) [c] cs
  | string {cs : List Char} : FaultAt ('"' :: cs) .unterminatedString ('"' :: cs) []
  | number {f : Fault} {lexeme behind : List Char} : f.literal? = some lexeme → lexeme ≠ [] →
      FaultAt (lexeme ++ behind) f (lexeme ++ behind.take 1) (behind.drop 1)

theorem FaultAt.text_ne_nil {s text rest : List Char} {f : Fault} (h : FaultAt s f text rest) :
    text ≠ [] := by
  cases h with
  | character | string => simp
  | number _ ne => simp [ne]

theorem faultAt_of_numeralAs {n : Numeral} {s rest text : List Char} {f : Fault}
    (ne : n.text ≠ []) (h : NumeralAs n s (.ok (.fault f text, rest))) :
    FaultAt (n.text ++ s) f text rest := by
  cases h with
  | trailingUnderscore | outOfRange => exact .number rfl ne

theorem faultAt_of_read {c : Char} {cs rest text : List Char} {f : Fault}
    (h : read c cs = .ok (.fault f text, rest)) : FaultAt (c :: cs) f text rest := by
  cases readAs_iff.2 h with
  | numeral _ scanned numeral =>
    rw [← Numeral.append_of_scan scanned]
    exact faultAt_of_numeralAs (Numeral.text_ne_nil_of_scan scanned) numeral
  | openString quote =>
    subst quote
    exact .string
  | invalidCharacter => exact .character

end Piece

/-! ## Tilings -/

/-- The text that starts at the offset `n` is made of the tokens, each as long as it can be, of what
the errors are about and of gaps, all in their places. The characters at the offsets `lost` are in
none of them. -/
inductive Tiled : (n : Nat) → List Char → List Token → List LexError → (lost : List Nat) →
    Prop where
  | last {n : Nat} {s : List Char} : EndGap s → Tiled n s [] [] []
  | token {n : Nat} {g rest : List Char} {t : Token} {ts : List Token} {es : List LexError}
      {lost : List Nat} :
      Gap g → t.start.offset = n + g.length → IsLongest t.kind t.lexeme.toList rest →
      Tiled (t.start.offset + t.lexeme.toList.length) rest ts es lost →
      Tiled n (g ++ (t.lexeme.toList ++ rest)) (t :: ts) es lost
  | error {n : Nat} {g region rest : List Char} {e : LexError} {ts : List Token}
      {es : List LexError} {lost : List Nat} :
      Gap g → e.location.offset = n + g.length → e.HasRegion region rest →
      Tiled (e.location.offset + region.length) rest ts es lost →
      Tiled n (g ++ (region ++ rest)) ts (e :: es) lost
  | lost {n m : Nat} {g rest : List Char} {c : Char} {ts : List Token} {es : List LexError}
      {lost : List Nat} :
      Gap g → m = n + g.length → Tiled (m + 1) rest ts es lost →
      Tiled n (g ++ c :: rest) ts es (m :: lost)

namespace Tiled

variable {n : Nat} {s : List Char} {ts : List Token} {es : List LexError} {lost : List Nat}

theorem gap_append {g : List Char} (h : Tiled (n + g.length) s ts es lost) (gap : Gap g) :
    Tiled n (g ++ s) ts es lost := by
  cases h with
  | last ends => exact .last (ends.gap_append gap)
  | token more start longest rest =>
    rw [← List.append_assoc]
    exact .token (gap.append more) (by simp [start, Nat.add_assoc]) longest rest
  | error more start region rest =>
    rw [← List.append_assoc]
    exact .error (gap.append more) (by simp [start, Nat.add_assoc]) region rest
  | lost more start rest =>
    rw [← List.append_assoc]
    exact .lost (gap.append more) (by simp [start, Nat.add_assoc]) rest

theorem le_of_mem (h : Tiled n s ts es lost) :
    (∀ t ∈ ts, n ≤ t.start.offset) ∧ ∀ e ∈ es, n ≤ e.location.offset := by
  induction h with
  | last => simp
  | token | error | lost => grind

end Tiled

/-! ## Sources that are read -/

/-- The place behind the literal of a bad number, unless a blank or nothing stands there. -/
def LexError.skipped? (source : List Char) (e : LexError) : Option Nat :=
  match e.fault.literal? with
  | none => none
  | some lexeme =>
    let behind := e.location.offset + lexeme.length
    if source[behind]?.all Text.isBlank then none else some behind

theorem LexError.skipped?_of_literal? {source before lexeme behind : List Char} {e : LexError}
    (literal : e.fault.literal? = some lexeme) (eq : source = before ++ (lexeme ++ behind))
    (place : e.location.offset = before.length) :
    e.skipped? source =
      if behind.head?.all Text.isBlank then none else some (e.location.offset + lexeme.length) := by
  have here : source[e.location.offset + lexeme.length]? = behind.head? := by
    rw [eq, place, ← List.append_assoc, ← List.length_append,
      List.getElem?_append_right (le_refl _), Nat.sub_self, List.head?_eq_getElem?]
  rw [skipped?, literal]
  simp only [here]

/-- An error for a fault in front of a text that is tiled. -/
theorem Tiled.of_fault {source before s text rest : List Char} {l : Location} {f : Fault}
    {ts : List Token} {es : List LexError} {lost : List Nat}
    (tiled : Tiled (l.offset + text.length) rest ts es lost)
    (fault : Piece.FaultAt s f text rest) (eq : source = before ++ s)
    (place : l.offset = before.length) :
    Tiled l.offset s ts (⟨f, l⟩ :: es)
      ((LexError.skipped? source ⟨f, l⟩).toList ++ lost) := by
  cases fault with
  | @character c _ =>
    have region : LexError.HasRegion ⟨.invalidCharacter c, l⟩ [c] rest := .character rfl rfl
    exact .error .nil rfl region tiled
  | @string cs =>
    have region : LexError.HasRegion ⟨.unterminatedString, l⟩ ('"' :: cs) [] := .string rfl
    have first := Tiled.error .nil rfl region tiled
    rwa [List.append_nil] at first
  | @number _ lexeme behind literal _ =>
    have skipped := LexError.skipped?_of_literal? (e := ⟨f, l⟩) literal eq place
    obtain ⟨code, message⟩ := LexError.diagnostic_of_literal? (e := ⟨f, l⟩) literal
    refine .error .nil rfl (.literal code message) ?_
    cases behind with
    | nil => simpa [skipped] using tiled
    | cons c behind =>
      rw [List.length_append, ← Nat.add_assoc] at tiled
      cases blank : Text.isBlank c with
      | true =>
        rw [skipped, if_pos (by simp [blank])]
        exact tiled.gap_append (.blank blank .nil)
      | false =>
        rw [skipped, if_neg (by simp [blank])]
        exact .lost .nil rfl tiled

namespace Lexing

/-- The places of the characters that are taken along with bad numbers. -/
def skipped (source : List Char) (x : Lexing) : List Nat :=
  x.errors.filterMap (LexError.skipped? source)

theorem skipped_fault (source : List Char) (l : Location) (f : Fault) (text : List Char)
    (ps : List Piece) :
    (ofPieces l (.fault f text :: ps)).skipped source =
      (LexError.skipped? source ⟨f, l⟩).toList ++ (ofPieces (l.after text) ps).skipped source := by
  simp only [skipped, ofPieces, List.filterMap_cons]
  cases LexError.skipped? source ⟨f, l⟩ <;> rfl

/-- The induction is on the pieces of the text `s`, in front of which stands `before`. -/
theorem tiled_of_pieces {s : List Char} {ps : List Piece} (h : pieces s = .ok ps)
    {source before : List Char} {l : Location} (eq : source = before ++ s)
    (place : l.offset = before.length) :
    Tiled l.offset s (ofPieces l ps).tokens (ofPieces l ps).errors
      ((ofPieces l ps).skipped source) := by
  fun_induction pieces s generalizing ps before l with
  | case1 =>
    cases h
    exact .last (.gap .nil)
  | case2 => cases h
  | case3 => cases h
  | case4 c cs p rest read qs hqs ih =>
    cases h
    have whole := Piece.append_of_read read
    have split : source = before ++ p.text ++ rest := by rw [eq, ← whole, List.append_assoc]
    have place' : (l.after p.text).offset = (before ++ p.text).length := by
      rw [Location.offset_after, place, List.length_append]
    have behind := ih hqs split place'
    rw [Location.offset_after] at behind
    cases p with
    | token content lexeme =>
      have text : (String.ofList lexeme).toList = lexeme := String.toList_ofList
      have longest : IsLongest content.kind (String.ofList lexeme).toList rest := by
        rw [text]
        exact Piece.isLongest_of_read read
      have first := @Tiled.token l.offset [] rest ⟨content, .ofList lexeme, l⟩ _ _ _ .nil rfl
        longest (text.symm ▸ behind)
      rw [← whole]
      simpa only [Lexing.tokens_token, Lexing.errors_token, skipped, Piece.text, text,
        List.nil_append] using first
    | gap g =>
      rw [← whole]
      rcases Piece.gap_of_read read with gap | ⟨body, rfl, none, rfl⟩
      · exact behind.gap_append gap
      · -- Behind an open comment the text has come to its end.
        rw [pieces] at hqs
        cases hqs
        rw [List.append_nil]
        exact .last (.openComment .nil none)
    | fault f text =>
      rw [skipped_fault]
      exact behind.of_fault (Piece.faultAt_of_read read) eq place

end Lexing

/-! ## Sources without a loss -/

/-- A gap that is read is the start of any gap there. -/
theorem Gap.exists_append {g s rest p : List Char} {c : Char} {cs : List Char} (h : Gap g)
    (ne : g ≠ []) (eq : c :: cs = g ++ s) (read : Piece.read c cs = .ok (.gap p, rest)) :
    ∃ g', Gap g' ∧ g = p ++ g' ∧ rest = g' ++ s := by
  cases h with
  | nil => exact absurd rfl ne
  | @blank _ g' blank more =>
    cases eq
    cases (Piece.read_blank blank _).symm.trans read
    exact ⟨g', more, rfl, rfl⟩
  | @comment body g' closed more =>
    have eq' : c :: cs = '/' :: ('*' :: body ++ '*' :: '/' :: (g' ++ s)) := by simpa using eq
    cases eq'
    cases (Piece.read_comment closed _).symm.trans read
    exact ⟨g', more, by simp, rfl⟩

theorem Piece.splitComment_of_open {body : List Char} (none : ¬ ['*', '/'] <:+: body) :
    splitComment body = (body, []) := by
  rcases splitComment_cases body with ⟨inner, rest, closed, -⟩ | ⟨toEnd, -⟩
  · have whole := append_splitComment body
    rw [closed] at whole
    exact absurd ⟨inner, rest, whole⟩ none
  · exact toEnd

theorem EndGap.tail_of_gap {rest p : List Char} {c : Char} {cs : List Char}
    (h : EndGap (c :: cs)) (read : Piece.read c cs = .ok (.gap p, rest)) : EndGap rest := by
  generalize eq : c :: cs = s at h
  cases h with
  | gap gap =>
    have ne : s ≠ [] := by simp [← eq]
    obtain ⟨g', more, -, rfl⟩ := gap.exists_append ne (eq.trans (List.append_nil s).symm) read
    rw [List.append_nil]
    exact .gap more
  | @openComment g body gap none =>
    cases g with
    | nil =>
      cases eq
      have toEnd := Piece.read_gap_eq_ok_iff.2
        (.inr ⟨body, body, rfl, rfl, Piece.splitComment_of_open none, rfl⟩)
      cases toEnd.symm.trans read
      exact .gap .nil
    | cons d g =>
      obtain ⟨g', more, -, rfl⟩ := gap.exists_append (by simp) eq read
      exact .openComment more none

/-- A gap starts with a blank or with a comment. -/
theorem Gap.eq_cons_of_not_isBlank {c : Char} {g : List Char} (h : Gap (c :: g))
    (solid : Text.isBlank c = false) : ∃ g', g = '*' :: g' := by
  cases h with
  | blank blank => simp [solid] at blank
  | comment => exact ⟨_, rfl⟩

theorem EndGap.eq_cons_of_not_isBlank {c : Char} {s : List Char} (h : EndGap (c :: s))
    (solid : Text.isBlank c = false) : ∃ s', s = '*' :: s' := by
  generalize eq : c :: s = t at h
  cases h with
  | gap gap =>
    subst eq
    exact gap.eq_cons_of_not_isBlank solid
  | @openComment g body gap none =>
    cases g with
    | nil =>
      cases eq
      exact ⟨body, rfl⟩
    | cons d g =>
      cases eq
      obtain ⟨g', rfl⟩ := gap.eq_cons_of_not_isBlank solid
      exact ⟨_, rfl⟩

namespace Tiled

variable {n : Nat} {s : List Char} {ts : List Token} {es : List LexError}

theorem exists_gap (h : Tiled n s ts es []) :
    EndGap s ∧ ts = [] ∧ es = [] ∨
      ∃ g rest, Gap g ∧ s = g ++ rest ∧ Tiled (n + g.length) rest ts es [] ∧
        ((∃ t ∈ ts, t.start.offset = n + g.length) ∨
          ∃ e ∈ es, e.location.offset = n + g.length) := by
  cases h with
  | last ends => exact .inl ⟨ends, rfl, rfl⟩
  | @token _ g _ t _ _ _ gap start longest rest =>
    have first : Tiled (n + g.length) _ _ _ _ := .token .nil (by simp [start]) longest rest
    exact .inr ⟨g, _, gap, rfl, first, .inl ⟨t, by simp, start⟩⟩
  | @error _ g _ _ e _ _ _ gap start region rest =>
    have first : Tiled (n + g.length) _ _ _ _ := .error .nil (by simp [start]) region rest
    exact .inr ⟨g, _, gap, rfl, first, .inr ⟨e, by simp, start⟩⟩

theorem tail_of_gap {p rest : List Char} {c : Char} {cs : List Char}
    (h : Tiled n (c :: cs) ts es []) (read : Piece.read c cs = .ok (.gap p, rest))
    (tokens : ∀ t ∈ ts, n + p.length ≤ t.start.offset)
    (errors : ∀ e ∈ es, n + p.length ≤ e.location.offset) :
    Tiled (n + p.length) rest ts es [] := by
  rcases h.exists_gap with ⟨ends, rfl, rfl⟩ | ⟨g, rest', gap, eq, behind, first⟩
  · exact .last (ends.tail_of_gap read)
  · have ne : g ≠ [] := by
      rintro rfl
      have := List.length_pos_iff.2 (Piece.text_ne_nil_of_read read)
      rw [Piece.text] at this
      rcases first with ⟨t, ht, place⟩ | ⟨e, he, place⟩
      · have := tokens t ht
        simp at place
        omega
      · have := errors e he
        simp at place
        omega
    obtain ⟨g', more, rfl, rfl⟩ := gap.exists_append ne eq read
    rw [List.length_append, ← Nat.add_assoc] at behind
    exact behind.gap_append more

theorem tail_of_token {t : Token} (h : Tiled n s (t :: ts) es []) (place : t.start.offset = n)
    (errors : ∀ e ∈ es, n < e.location.offset) :
    ∃ rest, s = t.lexeme.toList ++ rest ∧ Tiled (n + t.lexeme.toList.length) rest ts es [] := by
  cases h with
  | @token _ g rest _ _ _ _ gap start longest behind =>
    have none : g = [] := List.eq_nil_of_length_eq_zero (by omega)
    subst none
    exact ⟨rest, rfl, place ▸ behind⟩
  | @error _ g _ _ e _ _ _ gap start region behind =>
    have := behind.le_of_mem.1 t (by simp)
    have := errors e (by simp)
    omega

theorem tail_of_error {e : LexError} (h : Tiled n s ts (e :: es) [])
    (place : e.location.offset = n) (tokens : ∀ t ∈ ts, n < t.start.offset) :
    ∃ region rest, s = region ++ rest ∧ e.HasRegion region rest ∧
      Tiled (n + region.length) rest ts es [] := by
  cases h with
  | @error _ g region rest _ _ _ _ gap start isRegion behind =>
    have none : g = [] := List.eq_nil_of_length_eq_zero (by omega)
    subst none
    exact ⟨region, rest, rfl, isRegion, place ▸ behind⟩
  | @token _ g _ t _ _ _ gap start longest behind =>
    have := behind.le_of_mem.2 e (by simp)
    have := tokens t (by simp)
    omega

/-- Where no token and no error starts, what is no blank is the start of a comment. So no token
starts behind it. -/
theorem not_behind {c : Char} {rest : List Char} (h : Tiled n (c :: rest) ts es [])
    (solid : Text.isBlank c = false) (tokens : ∀ t ∈ ts, n < t.start.offset)
    (errors : ∀ e ∈ es, n < e.location.offset) :
    (∃ rest', rest = '*' :: rest') ∧ ∀ t ∈ ts, n + 1 < t.start.offset := by
  rcases h.exists_gap with ⟨ends, rfl, rfl⟩ | ⟨g, rest', gap, eq, behind, first⟩
  · exact ⟨ends.eq_cons_of_not_isBlank solid, by simp⟩
  · cases g with
    | nil =>
      rcases first with ⟨t, ht, place⟩ | ⟨e, he, place⟩
      · exact absurd place (tokens t ht).ne'
      · exact absurd place (errors e he).ne'
    | cons d g =>
      cases eq
      obtain ⟨g', rfl⟩ := gap.eq_cons_of_not_isBlank solid
      refine ⟨⟨_, rfl⟩, fun t ht => ?_⟩
      have := behind.le_of_mem.1 t ht
      simp only [List.length_cons] at this
      omega

end Tiled

/-- Without a loss, no character is taken along with a fault but a blank. -/
theorem Tiled.tail_of_fault {source before s text rest : List Char} {l : Location} {f : Fault}
    {ts : List Token} {es : List LexError} (h : Tiled l.offset s ts (⟨f, l⟩ :: es) [])
    (fault : Piece.FaultAt s f text rest) (eq : source = before ++ s)
    (place : l.offset = before.length)
    (tokens : ∀ t ∈ ts, l.offset + text.length ≤ t.start.offset)
    (errors : ∀ e ∈ es, l.offset + text.length ≤ e.location.offset)
    (star : ∀ rest', rest = '*' :: rest' → ∃ t ∈ ts, t.start.offset = l.offset + text.length) :
    Tiled (l.offset + text.length) rest ts es [] ∧ LexError.skipped? source ⟨f, l⟩ = none := by
  have ne := List.length_pos_iff.2 fault.text_ne_nil
  obtain ⟨region, rest', whole, isRegion, behind⟩ := h.tail_of_error rfl fun t ht =>
    (Nat.lt_add_of_pos_right ne).trans_le (tokens t ht)
  cases fault with
  | character =>
    cases isRegion with
    | character =>
      cases whole
      exact ⟨behind, rfl⟩
    | string code | literal code => simp [LexError.code_diagnostic] at code
  | string =>
    cases isRegion with
    | string =>
      cases whole
      exact ⟨by simpa using behind, rfl⟩
    | character code | literal code => simp [LexError.code_diagnostic] at code
  | @number _ lexeme after literal _ =>
    have skipped := LexError.skipped?_of_literal? (e := ⟨f, l⟩) literal eq place
    obtain rfl := isRegion.eq_of_literal? literal
    obtain rfl := List.append_cancel_left whole
    cases after with
    | nil => exact ⟨by simpa using behind, by simp [skipped]⟩
    | cons c after =>
      rw [List.length_append, ← Nat.add_assoc] at tokens errors star ⊢
      cases blank : Text.isBlank c with
      | true =>
        refine ⟨behind.tail_of_gap (Piece.read_blank blank after) tokens errors, ?_⟩
        rw [skipped, if_pos (by simp [blank])]
      | false =>
        obtain ⟨⟨rest', isStar⟩, further⟩ := behind.not_behind blank tokens errors
        obtain ⟨t, ht, place⟩ := star rest' isStar
        exact absurd place (further t ht).ne'

theorem Piece.read_star (s : List Char) :
    read '*' s = .ok (.token (.mark .star) ['*'], s) :=
  ReadAs.eq (.mark .star rfl fun slash => absurd slash (by decide))

namespace Lexing

/-- Where a star is read, a token starts. -/
theorem exists_token_of_star {s : List Char} {ps : List Piece} (h : pieces ('*' :: s) = .ok ps)
    (l : Location) : ∃ t ∈ (ofPieces l ps).tokens, t.start = l := by
  rw [pieces_cons (Piece.read_star s)] at h
  obtain ⟨qs, -, rfl⟩ := map_eq_ok.1 h
  exact ⟨_, List.mem_cons_self, rfl⟩

/-- Reading goes along with a tiling that loses nothing, so there was nothing to lose. -/
theorem skipped_eq_nil_of_tiled {s : List Char} {ps : List Piece} (h : pieces s = .ok ps)
    {source before : List Char} {l : Location} (eq : source = before ++ s)
    (place : l.offset = before.length)
    (tiled : Tiled l.offset s (ofPieces l ps).tokens (ofPieces l ps).errors []) :
    (ofPieces l ps).skipped source = [] := by
  fun_induction pieces s generalizing ps before l with
  | case1 =>
    cases h
    rfl
  | case2 => cases h
  | case3 => cases h
  | case4 c cs p rest read qs hqs ih =>
    cases h
    have whole := Piece.append_of_read read
    have ne := List.length_pos_iff.2 (Piece.text_ne_nil_of_read read)
    have split : source = before ++ p.text ++ rest := by rw [eq, ← whole, List.append_assoc]
    have place' : (l.after p.text).offset = (before ++ p.text).length := by
      rw [Location.offset_after, place, List.length_append]
    have behind := ih hqs split place'
    have tokens : ∀ t ∈ (ofPieces (l.after p.text) qs).tokens,
        l.offset + p.text.length ≤ t.start.offset := by
      intro t ht
      rw [← Location.offset_after]
      exact offset_le_of_mem ht
    have errors : ∀ e ∈ (ofPieces (l.after p.text) qs).errors,
        l.offset + p.text.length ≤ e.location.offset := by
      intro e he
      rw [← Location.offset_after]
      exact offset_le_of_mem_errors he
    rw [Location.offset_after] at behind
    cases p with
    | gap g => exact behind (tiled.tail_of_gap read tokens errors)
    | token content lexeme =>
      obtain ⟨rest', eq', tiled'⟩ := tiled.tail_of_token rfl fun e he =>
        (Nat.lt_add_of_pos_right ne).trans_le (errors e he)
      rw [← whole, String.toList_ofList, Piece.text, List.append_cancel_left_eq] at eq'
      subst eq'
      rw [String.toList_ofList] at tiled'
      exact behind tiled'
    | fault f text =>
      have star : ∀ rest', rest = '*' :: rest' →
          ∃ t ∈ (ofPieces (l.after text) qs).tokens, t.start.offset = l.offset + text.length := by
        rintro rest' rfl
        obtain ⟨t, ht, start⟩ := exists_token_of_star hqs (l.after text)
        exact ⟨t, ht, by rw [start, Location.offset_after]⟩
      obtain ⟨tiled', none⟩ :=
        tiled.tail_of_fault (Piece.faultAt_of_read read) eq place tokens errors star
      rw [skipped_fault, none]
      exact behind tiled'

/-- The characters that belong to nothing are those behind the literals of bad numbers, blanks
apart. So a source is nothing but tokens, gaps and what errors are about exactly if each of its bad
numbers stands at the end or in front of a blank. -/
theorem tiled_iff_of_ofSource {file : String} {source : List Char} {x : Lexing}
    (h : ofSource file source = .ok x) :
    Tiled 0 source x.tokens x.errors (x.skipped source) ∧
      (Tiled 0 source x.tokens x.errors [] ↔ x.skipped source = []) := by
  obtain ⟨ps, hps, rfl⟩ := map_eq_ok.1 h
  have tiled := tiled_of_pieces hps (List.nil_append source).symm (l := .start file) rfl
  refine ⟨tiled, fun complete => ?_, fun none => none ▸ tiled⟩
  exact skipped_eq_nil_of_tiled hps (List.nil_append source).symm (l := .start file) rfl complete

/-- Five faults with two losses: the sign behind the first number and the slash behind the last one,
which is no comment any more. The second number has a blank behind it. -/
theorem tiled_iff_of_ofSource_faulty :
    ∃ x, ofSource "m" "a 1_+ 1_ $1e999/**/\"b".toList = .ok x ∧ x.errors.length = 5 ∧
      Tiled 0 "a 1_+ 1_ $1e999/**/\"b".toList x.tokens x.errors [4, 15] := by
  have lossy : (ofSource "m" "a 1_+ 1_ $1e999/**/\"b".toList).toOption.map (fun x =>
      (x.errors.length, x.skipped "a 1_+ 1_ $1e999/**/\"b".toList)) = some (5, [4, 15]) := by
    decide +kernel
  cases read : ofSource "m" "a 1_+ 1_ $1e999/**/\"b".toList with
  | error a =>
    rw [read] at lossy
    cases lossy
  | ok x =>
    rw [read] at lossy
    obtain ⟨count, lost⟩ := Prod.mk.inj (Option.some.inj lossy)
    exact ⟨x, rfl, count, lost ▸ (tiled_iff_of_ofSource read).1⟩

/-- The sign behind a bad number is neither a token nor a gap, and no error is about it. -/
theorem not_tiled_of_sign :
    ∃ x, ofSource "m" "1_+".toList = .ok x ∧ x.tokens = [] ∧
      ¬ Tiled 0 "1_+".toList x.tokens x.errors [] := by
  have cut : pieces "1_+".toList =
      .ok [.fault (.trailingUnderscore ['1', '_']) ['1', '_', '+']] := by decide +kernel
  refine ⟨_, by rw [ofSource, cut]; rfl, rfl, fun complete => ?_⟩
  have lossless :=
    skipped_eq_nil_of_tiled cut (List.nil_append _).symm (l := .start "m") rfl complete
  exact absurd lossless (by decide +kernel)

end Lexing

end ComponentMarkup
