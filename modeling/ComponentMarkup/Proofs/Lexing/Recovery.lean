import ComponentMarkup.Proofs.Compilation.Stages
import ComponentMarkup.Proofs.Lexing.Numerals
import ComponentMarkup.Proofs.Lexing.Positions

/-!
# Faults and dead ends

A fault does not stop the reading of a source: it is noted and the reading goes on behind it. Two
texts are dead ends that give up the whole source, however good the rest of it is: a digit of no
positional system, and an integer with too many digits.

## Main definitions

* `Reaches` — the texts that reading a source comes to.
* `DeadEnd` — texts that have no piece at their start.
* `Lexing.Collects` — the tokens up to the end, and every fault that is met, once and in order.

## Main statements

* `Piece.exists_read_error_iff`, `exists_pieces_error_iff` — the dead ends are those texts.
* `compile_eq_lexical_iff` — a compilation fails in lexing if and as its source is not lexed.
* `forall_not_deadEnd_iff` — the sources that are read to their end, whatever faults they have.
-/

namespace ComponentMarkup

open Source (Location)

/-- Reading `s` comes to what stands behind `before`. -/
inductive Reaches : List Char → List Char → List Char → Prop where
  | start (s : List Char) : Reaches s [] s
  | step {c : Char} {cs rest before behind : List Char} {p : Piece} :
      Piece.read c cs = .ok (p, rest) → Reaches rest before behind →
      Reaches (c :: cs) (p.text ++ before) behind

inductive DeadEnd : List Char → Prop where
  | detachedDigit {c : Char} {cs : List Char} :
      Text.isDetachedDigit c = true → DeadEnd (c :: cs)
  | tooManyDigits {run rest : List Char} :
      IsWhole run rest → run.getLast? ≠ some '_' → maxDigits < run.countP Text.isDecimal →
      DeadEnd (run ++ rest)

namespace Piece

theorem deadEnd_of_read {c : Char} {cs : List Char} {a : Abort} (h : read c cs = .error a) :
    DeadEnd (c :: cs) := by
  cases readAs_iff.2 h with
  | detachedDigit _ detached => exact .detachedDigit detached
  | numeral _ scanned numeral =>
    cases numeral with
    | tooManyDigits isInteger last many =>
      obtain ⟨eq, whole⟩ := Numeral.isWhole_of_scan scanned isInteger
      rw [Numeral.length_digits] at many
      rw [eq]
      exact .tooManyDigits whole last many

theorem read_detachedDigit {c : Char} (h : Text.isDetachedDigit c = true) (cs : List Char) :
    read c cs = .error (.detachedDigit c) :=
  ReadAs.eq (.detachedDigit (Text.not_isBlank_of_isDetachedDigit h) h)

theorem exists_read_error_iff {c : Char} {cs : List Char} :
    (∃ a, read c cs = .error a) ↔ DeadEnd (c :: cs) := by
  refine ⟨fun ⟨_, h⟩ => deadEnd_of_read h, fun h => ?_⟩
  generalize eq : c :: cs = s at h
  cases h with
  | detachedDigit detached =>
    cases eq
    exact ⟨_, read_detachedDigit detached cs⟩
  | tooManyDigits whole last many =>
    rw [read_run eq whole, if_neg last, if_pos many]
    exact ⟨_, rfl⟩

end Piece

theorem not_deadEnd_nil : ¬ DeadEnd [] := by
  intro h
  generalize eq : ([] : List Char) = s at h
  cases h with
  | detachedDigit => cases eq
  | tooManyDigits whole =>
    obtain ⟨rfl, -⟩ := List.append_eq_nil_iff.1 eq.symm
    exact whole.run

/-! ## Reading on -/

theorem Reaches.inv {s before behind : List Char} {c : Char} {cs rest : List Char} {p : Piece}
    (h : Reaches s before behind) (eq : s = c :: cs) (read : Piece.read c cs = .ok (p, rest)) :
    (before = [] ∧ behind = c :: cs) ∨
      ∃ before', before = p.text ++ before' ∧ Reaches rest before' behind := by
  cases h with
  | start => exact .inl ⟨rfl, eq⟩
  | step read' further =>
    cases eq
    cases read.symm.trans read'
    exact .inr ⟨_, rfl, further⟩

theorem exists_pieces_error_iff {s : List Char} :
    (∃ a, pieces s = .error a) ↔ ∃ before behind, Reaches s before behind ∧ DeadEnd behind := by
  constructor
  · rintro ⟨a, h⟩
    fun_induction pieces s generalizing a with
    | case1 => cases h
    | case2 c cs a' read => exact ⟨[], c :: cs, .start _, Piece.deadEnd_of_read read⟩
    | case3 c cs p rest read a' error ih =>
      obtain ⟨before, behind, reaches, dead⟩ := ih a' error
      exact ⟨_, behind, .step read reaches, dead⟩
    | case4 => cases h
  · rintro ⟨before, behind, reaches, dead⟩
    induction reaches with
    | start s =>
      cases s with
      | nil => exact absurd dead not_deadEnd_nil
      | cons c cs =>
        obtain ⟨a, read⟩ := Piece.exists_read_error_iff.2 dead
        exact ⟨a, pieces_of_read_error read⟩
    | step read _ ih =>
      obtain ⟨a, error⟩ := ih dead
      exact ⟨a, by rw [pieces_cons read, error]; rfl⟩

theorem Reaches.append_eq {s before behind : List Char} (h : Reaches s before behind) :
    before ++ behind = s := by
  induction h with
  | start => rfl
  | step read _ ih => rw [List.append_assoc, ih, Piece.append_of_read read]

/-- Reading a text that starts at `l` comes to the piece at `place`. -/
def ReadsAt (l : Location) (s : List Char) (p : Piece) (place : Location) : Prop :=
  ∃ before c cs rest, Reaches s before (c :: cs) ∧ Piece.read c cs = .ok (p, rest) ∧
    place = l.after before

theorem not_readsAt_nil {l place : Location} {p : Piece} : ¬ ReadsAt l [] p place := by
  rintro ⟨before, c, cs, rest, reaches, -⟩
  cases reaches

theorem readsAt_cons_iff {l place : Location} {c : Char} {cs rest : List Char} {p q : Piece}
    (read : Piece.read c cs = .ok (p, rest)) :
    ReadsAt l (c :: cs) q place ↔
      (p = q ∧ place = l) ∨ ReadsAt (l.after p.text) rest q place := by
  constructor
  · rintro ⟨before, d, ds, rest', reaches, read', here⟩
    rcases reaches.inv rfl read with ⟨rfl, eq⟩ | ⟨before', rfl, further⟩
    · cases eq
      cases read.symm.trans read'
      exact .inl ⟨rfl, here⟩
    · rw [Location.after_append] at here
      exact .inr ⟨before', d, ds, rest', further, read', here⟩
  · rintro (⟨rfl, rfl⟩ | ⟨before, d, ds, rest', reaches, read', here⟩)
    · exact ⟨[], c, cs, rest, .start _, read, rfl⟩
    · refine ⟨_, d, ds, rest', .step read reaches, read', ?_⟩
      rw [here, Location.after_append]

/-- There is one piece in each place. -/
theorem ReadsAt.unique {l place : Location} {s : List Char} {p q : Piece}
    (hp : ReadsAt l s p place) (hq : ReadsAt l s q place) : p = q := by
  obtain ⟨before, c, cs, rest, reaches, read, rfl⟩ := hp
  obtain ⟨before', d, ds, rest', reaches', read', same⟩ := hq
  have length := congrArg Location.offset same
  simp only [Location.offset_after, Nat.add_left_cancel_iff] at length
  have whole := reaches.append_eq.trans reaches'.append_eq.symm
  obtain ⟨rfl, eq⟩ := List.append_inj whole length
  cases eq
  cases read.symm.trans read'
  rfl

/-- Reading a text that starts at `l` meets the fault in its place. -/
def Meets (l : Location) (s : List Char) (e : LexError) : Prop :=
  ∃ before c cs text rest, Reaches s before (c :: cs) ∧
    Piece.read c cs = .ok (.fault e.fault text, rest) ∧ e.location = l.after before

theorem meets_iff {l : Location} {s : List Char} {e : LexError} :
    Meets l s e ↔ ∃ text, ReadsAt l s (.fault e.fault text) e.location := by
  constructor
  · rintro ⟨before, c, cs, text, rest, reaches, read, here⟩
    exact ⟨text, before, c, cs, rest, reaches, read, here⟩
  · rintro ⟨text, before, c, cs, rest, reaches, read, here⟩
    exact ⟨before, c, cs, text, rest, reaches, read, here⟩

namespace Lexing

theorem mem_errors_iff {s : List Char} {ps : List Piece} (h : pieces s = .ok ps) (l : Location)
    (e : LexError) : e ∈ (ofPieces l ps).errors ↔ Meets l s e := by
  rw [meets_iff]
  fun_induction pieces s generalizing ps l with
  | case1 =>
    cases h
    simp [ofPieces, not_readsAt_nil]
  | case2 => cases h
  | case3 => cases h
  | case4 c cs p rest read qs hqs ih =>
    cases h
    simp only [readsAt_cons_iff read, exists_or, ← ih hqs]
    cases p with
    | gap g => simp [Piece.text]
    | token content lexeme => simp [Piece.text]
    | fault f text =>
      obtain ⟨fault, location⟩ := e
      simp only [ofPieces, List.mem_cons, LexError.mk.injEq, Piece.fault.injEq]
      grind

theorem mem_tokens_iff {s : List Char} {ps : List Piece} (h : pieces s = .ok ps) (l : Location)
    (t : Token) :
    t ∈ (ofPieces l ps).tokens ↔ ReadsAt l s (.token t.content t.lexeme.toList) t.start := by
  fun_induction pieces s generalizing ps l with
  | case1 =>
    cases h
    simp [ofPieces, not_readsAt_nil]
  | case2 => cases h
  | case3 => cases h
  | case4 c cs p rest read qs hqs ih =>
    cases h
    rw [readsAt_cons_iff read, ← ih hqs]
    cases p with
    | gap g => simp [Piece.text]
    | fault f text => simp [Piece.text, ofPieces]
    | token content lexeme =>
      obtain ⟨content', lexeme', start⟩ := t
      simp only [ofPieces, List.mem_cons, Token.mk.injEq, Piece.token.injEq]
      have spelling : lexeme' = .ofList lexeme ↔ lexeme = lexeme'.toList := by
        rw [← String.toList_inj, String.toList_ofList, eq_comm]
      grind

theorem offset_le_of_mem_errors {l : Location} {ps : List Piece} {e : LexError}
    (h : e ∈ (ofPieces l ps).errors) : l.offset ≤ e.location.offset := by
  induction ps generalizing l with
  | nil => simp [ofPieces] at h
  | cons p ps ih =>
    have behind (h : e ∈ (ofPieces (l.after p.text) ps).errors) :
        l.offset ≤ e.location.offset := by
      have := ih h
      rw [Location.offset_after] at this
      omega
    cases p with
    | gap g => exact behind h
    | token content lexeme => exact behind h
    | fault f text =>
      rcases List.mem_cons.1 h with rfl | h
      · exact Nat.le_refl _
      · exact behind h

/-- Reading is never where it was before, so no fault is met twice. -/
theorem pairwise_errors {s : List Char} {ps : List Piece} (h : pieces s = .ok ps) (l : Location) :
    (ofPieces l ps).errors.Pairwise fun d e => d.location.offset < e.location.offset := by
  fun_induction pieces s generalizing ps l with
  | case1 =>
    cases h
    exact .nil
  | case2 => cases h
  | case3 => cases h
  | case4 c cs p rest read qs hqs ih =>
    cases h
    cases p with
    | gap g => exact ih hqs _
    | token content lexeme => exact ih hqs _
    | fault f text =>
      refine List.pairwise_cons.2 ⟨fun e he => ?_, ih hqs _⟩
      have := offset_le_of_mem_errors he
      have := List.length_pos_iff.2 (Piece.text_ne_nil_of_read read)
      rw [Location.offset_after] at *
      dsimp only
      omega

/-- The tokens of a source up to its end, and a fault for each place where one is met. -/
structure Collects (file : String) (source : List Char) (x : Lexing) : Prop where
  ends : ∃ ts eof, x.all = ts ++ [eof] ∧ (∀ t ∈ ts, t.kind ≠ .eof) ∧ eof.kind = .eof ∧
    eof.start.offset = source.length
  mem_errors_iff : ∀ e, e ∈ x.errors ↔ Meets (.start file) source e
  ascending : x.errors.Pairwise fun d e => d.location.offset < e.location.offset

theorem collects_of_ofSource {file : String} {source : List Char} {x : Lexing}
    (h : ofSource file source = .ok x) : x.Collects file source := by
  have ends := (isPlaced_of_ofSource h).ends
  obtain ⟨ps, hps, rfl⟩ := map_eq_ok.1 h
  exact ⟨ends, fun e => mem_errors_iff hps _ e, pairwise_errors hps _⟩

end Lexing

/-! ## Sources -/

theorem lex_of_ofSource {file source : String} {x : Lexing}
    (h : Lexing.ofSource file source.toList = .ok x) :
    lex file source = match x.errors with
      | [] => .ok x
      | e :: _ => .error (.fault e) := by
  simp only [lex, h, Lexing.checked]
  cases x.errors <;> rfl

theorem lex_eq_error_iff {file source : String} {x : Lexing} {f : LexFailure}
    (h : Lexing.ofSource file source.toList = .ok x) :
    lex file source = .error f ↔ ∃ e, x.errors.head? = some e ∧ f = .fault e := by
  rw [lex_of_ofSource h]
  cases x.errors <;> simp [eq_comm]

theorem lex_of_pieces_error {source : String} {a : Abort} (h : pieces source.toList = .error a)
    (file : String) : lex file source = .error (.abort a) := by
  simp [lex, Lexing.ofSource, h, Except.map]

/-- A compilation fails in lexing if its source is not lexed, and for the same reason. -/
theorem compile_eq_lexical_iff {registry : Registry} {config : Config} {given : Option String}
    {source : String} {f : LexFailure} :
    compile registry config given source = .error (.lexical f) ↔
      lex (fileName config given) source = .error f := by
  refine ⟨fun failed => ?_, compile_of_lex_error⟩
  cases lexed : lex (fileName config given) source with
  | error g =>
    rw [compile_of_lex_error lexed] at failed
    cases failed
    rfl
  | ok x =>
    rw [compile_of_lex lexed] at failed
    split at failed
    case isFalse => cases failed
    split at failed
    case h_1 => cases failed
    case h_2 tag warnings _ _ =>
      have := map_eq_error.1 failed
      unfold Emission.outcome at this
      split at this
      case h_1 => cases this
      case h_2 => split at this <;> cases this

/-- A source is read to its end exactly if reading it comes to no dead end. Then every fault is
collected, lexing fails with the first of them if there is one, and a compilation of the source
fails in lexing with that fault and with nothing else. -/
theorem forall_not_deadEnd_iff (source : String) :
    (∀ before behind, Reaches source.toList before behind → ¬ DeadEnd behind) ↔
      ∀ file, ∃ x, Lexing.ofSource file source.toList = .ok x ∧
        x.Collects file source.toList ∧
        (lex file source = match x.errors with
          | [] => .ok x
          | e :: _ => .error (.fault e)) ∧
        ∀ registry config given, fileName config given = file → ∀ f,
          compile registry config given source = .error (.lexical f) ↔
            ∃ e, x.errors.head? = some e ∧ f = .fault e := by
  constructor
  · intro free file
    cases cut : pieces source.toList with
    | error a =>
      obtain ⟨before, behind, reaches, dead⟩ := exists_pieces_error_iff.1 ⟨a, cut⟩
      exact absurd dead (free before behind reaches)
    | ok ps =>
      have read : Lexing.ofSource file source.toList = .ok (.ofPieces (.start file) ps) := by
        simp [Lexing.ofSource, cut, Except.map]
      refine ⟨_, read, Lexing.collects_of_ofSource read, lex_of_ofSource read, ?_⟩
      rintro registry config given rfl f
      rw [compile_eq_lexical_iff, lex_eq_error_iff read]
  · intro complete before behind reaches dead
    obtain ⟨a, cut⟩ := exists_pieces_error_iff.2 ⟨before, behind, reaches, dead⟩
    obtain ⟨x, read, -⟩ := complete ""
    simp [Lexing.ofSource, cut, Except.map] at read

/-- A character that is no part of the language, a number that is none and a string that is left
open are three faults of one source, and it is read to its end. -/
theorem forall_not_deadEnd_iff_faulty :
    ∃ x, Lexing.ofSource "m" "$ 1_ a \"b".toList = .ok x ∧ x.errors.length = 3 ∧
      x.Collects "m" "$ 1_ a \"b".toList := by
  have cut : pieces "$ 1_ a \"b".toList = .ok [.fault (.invalidCharacter '$') ['$'], .gap [' '],
      .fault (.trailingUnderscore ['1', '_']) ['1', '_', ' '], .token .identifier ['a'],
      .gap [' '], .fault .unterminatedString ['"', 'b']] := by decide +kernel
  have free : ∀ before behind, Reaches "$ 1_ a \"b".toList before behind → ¬ DeadEnd behind := by
    intro before behind reaches dead
    obtain ⟨a, failed⟩ := exists_pieces_error_iff.2 ⟨before, behind, reaches, dead⟩
    cases cut.symm.trans failed
  obtain ⟨x, read, collects, -⟩ := (forall_not_deadEnd_iff "$ 1_ a \"b").1 free "m"
  refine ⟨x, read, ?_, collects⟩
  obtain ⟨ps, hps, rfl⟩ := map_eq_ok.1 read
  cases cut.symm.trans hps
  rfl

theorem pieces_ones {n : Nat} (many : maxDigits < n) :
    pieces (List.replicate n '1') = .error (.tooManyDigits (List.replicate n '1')) := by
  obtain ⟨m, rfl⟩ := Nat.exists_eq_add_one_of_ne_zero (Nat.ne_zero_of_lt many)
  have decimal : Text.isDecimal '1' = true := by decide
  have whole : IsWhole (List.replicate (m + 1) '1') [] := by
    refine ⟨⟨decimal, fun d hd => ?_⟩, nofun, rfl, rfl⟩
    rw [List.eq_of_mem_replicate hd]
    decide
  have last : (List.replicate (m + 1) '1').getLast? ≠ some '_' := by
    simp [List.getLast?_replicate]
  have count : maxDigits < (List.replicate (m + 1) '1').countP Text.isDecimal := by
    simpa [List.countP_replicate, decimal] using many
  rw [List.replicate_succ] at whole last count ⊢
  refine pieces_of_read_error ((Piece.read_run (List.append_nil _).symm whole).trans ?_)
  rw [if_neg last, if_pos count]

/-- A superscript, or one digit too many, gives up the source without any fault. -/
theorem lex_eq_abort_superscript :
    (∀ file, lex file "²" = .error (.abort (.detachedDigit '²'))) ∧
      (∀ registry config given,
        compile registry config given "²" = .error (.lexical (.abort (.detachedDigit '²')))) ∧
      ∀ file, lex file (.ofList (List.replicate (maxDigits + 1) '1')) =
        .error (.abort (.tooManyDigits (List.replicate (maxDigits + 1) '1'))) := by
  have superscript : pieces "²".toList = .error (.detachedDigit '²') :=
    pieces_of_read_error (Piece.read_detachedDigit (by decide) [])
  refine ⟨lex_of_pieces_error superscript, fun registry config given => ?_,
    lex_of_pieces_error ?_⟩
  · exact compile_of_lex_error (lex_of_pieces_error superscript _)
  · rw [String.toList_ofList]
    exact pieces_ones (Nat.lt_succ_self maxDigits)

end ComponentMarkup
