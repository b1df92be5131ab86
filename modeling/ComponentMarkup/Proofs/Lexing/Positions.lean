import ComponentMarkup.Proofs.Lexing.Assembly
import ComponentMarkup.Proofs.Lexing.Spellings
import Mathlib.Data.List.DropRight

/-!
# Positions

The places of tokens are counted while the source is read, one character after the other. They are
what the source in front of a token says: how many line breaks it has and how much stands behind the
last one.

## Main definitions

* `Location.inSource` — the place at an offset of a source.
* `Location.behind` — the place behind a text, by the line breaks of the text alone.
* `Token.IsPlaced`, `Lexing.IsPlaced` — tokens stand where the source has them.

## Main statements

* `Location.after_eq_behind` — counting comes to the same as looking for the last line break.
* `Lexing.isPlaced_of_ofSource` — every source that can be cut into pieces has its tokens in place.
-/

namespace ComponentMarkup

open Source (Location)

namespace Source.Location

/-- How much of a text goes up to its last line break, the break included. -/
def lineStart (s : List Char) : Nat := (s.rdropWhile (· ≠ '\n')).length

/-- The place at an offset: one line more than there are line breaks before it, and one column more
than there are characters behind the last of them. -/
def inSource (file : String) (source : List Char) (offset : Nat) : Location where
  file
  line := 1 + (source.take offset).count '\n'
  column := offset - lineStart (source.take offset) + 1
  offset

/-- The place behind a text that starts at `l`. A text without a line break stays in its line. -/
def behind (l : Location) (s : List Char) : Location where
  file := l.file
  line := l.line + s.count '\n'
  column := if '\n' ∈ s then s.length - lineStart s + 1 else l.column + s.length
  offset := l.offset + s.length

theorem lineStart_concat (s : List Char) (c : Char) :
    lineStart (s ++ [c]) = if c = '\n' then s.length + 1 else lineStart s := by
  by_cases h : c = '\n' <;> simp [lineStart, h]

theorem lineStart_le (s : List Char) : lineStart s ≤ s.length :=
  (List.rdropWhile_prefix _ s).length_le

theorem lineStart_eq_zero {s : List Char} (h : '\n' ∉ s) : lineStart s = 0 := by
  have all : ∀ c ∈ s, decide (c ≠ '\n') = true := fun c hc => by grind
  rw [lineStart, List.length_eq_zero_iff]
  exact List.rdropWhile_eq_nil_iff.2 all

/-- Counting comes to the same as looking for the last line break. The induction takes characters
from the end, where the counting has come last. -/
theorem after_eq_behind (l : Location) (s : List Char) : l.after s = l.behind s := by
  induction s using List.reverseRecOn with
  | nil => simp [behind]
  | append_singleton s c ih =>
    have inside := lineStart_le s
    rw [after_append, ih]
    by_cases newline : c = '\n'
    · simp [after, step, behind, newline, lineStart_concat]
      omega
    · have same : ('\n' ∈ s ++ [c]) ↔ '\n' ∈ s := by simp [Ne.symm newline]
      simp only [after, List.foldl_cons, List.foldl_nil, step, behind, if_neg newline,
        lineStart_concat, same, List.count_append, List.length_append]
      split <;> simp [newline] <;> omega

theorem start_after_eq_inSource (file : String) (s t : List Char) :
    (start file).after s = .inSource file (s ++ t) s.length := by
  rw [after_eq_behind]
  simp only [behind, start, inSource, List.take_left, mk.injEq, true_and, Nat.zero_add, and_true]
  split
  · rfl
  case isFalse none => rw [lineStart_eq_zero none]; omega

end Source.Location

/-- A token stands where the source has it, from its first character to its last. -/
structure Token.IsPlaced (file : String) (source : List Char) (t : Token) : Prop where
  lexeme_eq : (source.drop t.start.offset).take t.lexeme.toList.length = t.lexeme.toList
  start_eq : t.span.start = .inSource file source t.start.offset
  stop_eq : t.span.stop = .inSource file source (t.start.offset + t.lexeme.toList.length)
  /-- The end of a token can be told from its start and its spelling. -/
  stop_eq_behind : t.span.stop = t.start.behind t.lexeme.toList

/-- The tokens of a source stand in their order and do not overlap, and the end of the source is the
last of them and no other. -/
structure Lexing.IsPlaced (file : String) (source : List Char) (x : Lexing) : Prop where
  each : ∀ t ∈ x.all, t.IsPlaced file source
  ascending : x.all.Pairwise fun t u =>
    t.start.offset < u.start.offset ∧ t.span.stop.offset ≤ u.start.offset
  ends : ∃ ts eof, x.all = ts ++ [eof] ∧ (∀ t ∈ ts, t.kind ≠ .eof) ∧ eof.kind = .eof ∧
    eof.start.offset = source.length

theorem Token.isPlaced_of_append {file : String} {source before behind : List Char} {t : Token}
    (whole : source = before ++ (t.lexeme.toList ++ behind))
    (start : t.start = (Location.start file).after before) : t.IsPlaced file source := by
  have offset : t.start.offset = before.length := by simp [start, Location.start]
  refine ⟨?_, ?_, ?_, Location.after_eq_behind ..⟩
  · simp [whole, offset]
  · rw [offset, whole, ← Location.start_after_eq_inSource]
    exact start
  · have stop : t.span.stop = (Location.start file).after (before ++ t.lexeme.toList) := by
      rw [Location.after_append, ← start]
      rfl
    rw [stop, offset, whole, ← List.append_assoc, ← List.length_append]
    exact Location.start_after_eq_inSource ..

namespace Lexing

/-- A token starts behind the pieces before it. -/
theorem exists_append_of_mem {l : Location} {ps : List Piece} {t : Token}
    (h : t ∈ (ofPieces l ps).tokens) :
    ∃ before behind, ps.flatMap Piece.text = before ++ (t.lexeme.toList ++ behind) ∧
      t.start = l.after before := by
  induction ps generalizing l with
  | nil => cases h
  | cons p ps ih =>
    have further (h : t ∈ (ofPieces (l.after p.text) ps).tokens) :
        ∃ before behind, (p :: ps).flatMap Piece.text = before ++ (t.lexeme.toList ++ behind) ∧
          t.start = l.after before := by
      obtain ⟨before, behind, whole, start⟩ := ih h
      exact ⟨p.text ++ before, behind, by simp [whole], by rw [start, Location.after_append]⟩
    cases p with
    | gap g => exact further h
    | fault f text => exact further h
    | token content lexeme =>
      rcases List.mem_cons.1 h with rfl | h
      · exact ⟨[], ps.flatMap Piece.text, by simp [Piece.text], rfl⟩
      · exact further h

/-- No token starts before the one in front of it has ended. -/
theorem pairwise_tokens (l : Location) (ps : List Piece) :
    (ofPieces l ps).tokens.Pairwise fun t u => t.stop.offset ≤ u.start.offset := by
  induction ps generalizing l with
  | nil => exact .nil
  | cons p ps ih =>
    cases p with
    | gap g => exact ih _
    | fault f text => exact ih _
    | token content lexeme =>
      refine List.pairwise_cons.2 ⟨fun u hu => ?_, ih _⟩
      simpa [Token.stop, Piece.text] using offset_le_of_mem hu

/-- Whatever errors there are, the tokens of a source stand where the source has them. -/
theorem isPlaced_of_ofSource {file : String} {source : List Char} {x : Lexing}
    (h : ofSource file source = .ok x) : x.IsPlaced file source := by
  have spelled := isSpelling_of_ofSource h
  obtain ⟨ps, hps, rfl⟩ := map_eq_ok.1 h
  have whole := text_pieces hps
  have stop : (ofPieces (.start file) ps).stop = (Location.start file).after source := by
    rw [stop_ofPieces, Location.afterAll, whole]
  have longer : ∀ t ∈ (ofPieces (.start file) ps).tokens, t.start.offset < t.stop.offset := by
    intro t ht
    have := List.length_pos_iff.2 (spelled t ht).ne_nil
    rw [Token.offset_stop]
    omega
  refine ⟨?_, ?_, _, _, rfl, ?_, rfl, ?_⟩
  · intro t ht
    rcases List.mem_append.1 ht with ht | ht
    · obtain ⟨before, behind, eq, start⟩ := exists_append_of_mem ht
      exact Token.isPlaced_of_append (whole.symm.trans eq) start
    · obtain rfl := List.mem_singleton.1 ht
      have atEnd : source =
          source ++ ((Token.atEnd (ofPieces (.start file) ps).stop).lexeme.toList ++ []) := by
        simp [Token.atEnd]
      exact Token.isPlaced_of_append atEnd stop
  · refine List.pairwise_append.2 ⟨?_, List.pairwise_singleton .., ?_⟩
    · refine (pairwise_tokens _ ps).imp_of_mem fun {t u} ht _ le => ⟨?_, le⟩
      exact Nat.lt_of_lt_of_le (longer t ht) le
    · intro t ht u hu
      obtain rfl := List.mem_singleton.1 hu
      have le := stop_le_of_mem ht
      rw [← stop_ofPieces] at le
      exact ⟨Nat.lt_of_lt_of_le (longer t ht) le, le⟩
  · intro t ht eof
    refine (spelled t ht).ne_eof ?_
    revert eof
    cases content : t.content <;> simp [Token.kind, Content.kind, content]
  · change (ofPieces (.start file) ps).stop.offset = source.length
    rw [stop, Location.offset_after]
    exact Nat.zero_add _

/-- A string over two lines behind a comment and a character that is no part of the language, and a
number that is none: the string ends in the second line that it stands in. -/
theorem isPlaced_of_ofSource_twoLines :
    ∃ x, ofSource "m" "/*\n*/$\"a\nb\" 1_ c".toList = .ok x ∧ x.errors.length = 2 ∧
      x.IsPlaced "m" "/*\n*/$\"a\nb\" 1_ c".toList := by
  have cut : ofSource "m" "/*\n*/$\"a\nb\" 1_ c".toList = .ok {
      tokens := [⟨.string [.ofChar 'a', .ofChar '\n', .ofChar 'b'], "\"a\nb\"", ⟨"m", 2, 4, 6⟩⟩,
        ⟨.identifier, "c", ⟨"m", 3, 7, 15⟩⟩]
      errors := [⟨.invalidCharacter '$', ⟨"m", 2, 3, 5⟩⟩,
        ⟨.trailingUnderscore ['1', '_'], ⟨"m", 3, 4, 12⟩⟩]
      stop := ⟨"m", 3, 8, 16⟩ } := by decide +kernel
  exact ⟨_, cut, rfl, isPlaced_of_ofSource cut⟩

end Lexing

end ComponentMarkup
