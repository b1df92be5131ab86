import ComponentMarkup.Proofs.Lexing.Assembly
import ComponentMarkup.Proofs.Lexing.Spellings
import ComponentMarkup.Proofs.Parsing.Delimiters
import ComponentMarkup.Proofs.Parsing.Verdicts

/-!
# Groups that are never closed

An error about a group that is never closed names the bracket which opens it, but it is reported
where the tokens end. In a source that is behind the bracket; the two places are the same only where
the tokens are made to end where the bracket starts.

## Main definitions

* `ParseError.TellsOf` — an error about the group that a bracket opens.

## Main statements

* `Suffix.exists_unclosed_of_scan` — which group the search for the end of a tag fails for.
* `Token.start_lt_stop_of_lex` — the end of a source is behind each of its tokens.
* `Parser.tellsOf_unclosed` — every error of the kind, of a tag or of a group.
* `Parser.unclosed_reported_at_end` — an error that is not reported at the bracket.
-/

namespace ComponentMarkup

open Source (Location)

/-- With the tokens `opener :: behind` left and `stop` behind them, the error is that the group of
`opener` never comes to an end. -/
structure ParseError.TellsOf (e : ParseError) (opener : Token) (behind : List Token)
    (stop : Location) : Prop where
  opens : opener.opens?.isSome = true
  unclosed : IsVerdict (opener :: behind) .unclosed
  token : e.token = some opener
  help : e.diagnostic.help =
    some s!"The opening '{opener.lexeme}' at {opener.start.text} was never closed."
  location : e.location = stop

variable {stop : Location} {t opener : Token} {ts : List Token} {e : ParseError}

/-- Of the failures to read a group, those of this kind are about the group's own bracket. -/
theorem Parser.tellsOf_of_groupFailure {fault : GroupFault} (opens : t.opens?.isSome = true)
    (read : Group.read (t :: ts) = .error fault)
    (failure : groupFailure stop fault (t :: ts) = .rejected e)
    (kind : e.kind = .unclosedDelimiter) : e.TellsOf t ts stop := by
  obtain ⟨m, opensAs⟩ := Option.isSome_iff_exists.1 opens
  obtain ⟨v, right, -⟩ : ∃! v, IsVerdict (t :: ts) v := Group.existsUnique_isVerdict opensAs
  have fits := right.fits opensAs
  have explained := Group.fault_of_read read opensAs
  rw [read] at fits
  cases fits with
  | mismatch =>
    simp only [groupFailure, explained] at failure
    cases failure
    cases kind
  | unclosed =>
    simp only [groupFailure, explained] at failure
    cases failure
    exact ⟨opens, right, ParseError.token_unclosedDelimiter t stop, rfl,
      ParseError.location_unclosedDelimiter t stop⟩

/-- The search for the end of a tag passes over what stands in front of such a group. -/
theorem Suffix.exists_unclosed_of_scan {depth : Nat}
    (h : scan stop depth ts = .error (.rejected e)) (kind : e.kind = .unclosedDelimiter) :
    ∃ before opener behind, ts = before ++ opener :: behind ∧ e.TellsOf opener behind stop := by
  have scans := scans_scan stop depth ts
  generalize scan stop depth ts = r at h scans
  induction scans with
  | ends ends =>
    cases ends with
    | opening | selfClosing => cases h
    | noTokens =>
      cases h
      cases kind
    | @noGroup _ t ts fault opens read =>
      exact ⟨[], t, ts, rfl, Parser.tellsOf_of_groupFailure opens read (Except.error.inj h) kind⟩
  | @passes _ _ _ passed _ _ step _ ih =>
    obtain ⟨before, opener, behind, split, tells⟩ := ih (map_eq_error.1 h)
    refine ⟨passed ++ before, opener, behind, ?_, tells⟩
    rw [← step.append, split, List.append_assoc]

namespace Parser

variable {config : Config} {s s' : TokenStream}

/-- A tag fails as the search for its end does. -/
theorem run_component_of_scan {first : Token} {e : Failure} (opens : first.isMark .lessThan = true)
    (scan : Suffix.scan s.stop 0 s.ahead = .error e) :
    (component config).run (s.before [first]) = .error e s := by
  have fails : suffix.run s = .error e s := by
    rw [suffix, run_bind_of_ok run_get, scan]
    rfl
  rw [component, run_bind_of_ok (run_mark opens), run_bind, fails]

theorem exists_unclosed_of_component
    (h : (component config).run s = .error (.rejected e) s') (kind : e.kind = .unclosedDelimiter) :
    ∃ before opener behind, s.ahead = before ++ opener :: behind ∧
      e.TellsOf opener behind s.stop := by
  have delimiter : (Failure.rejected e).IsDelimiter := .unclosed kind
  cases opened : (mark .lessThan).run s with
  | error e' s₁ =>
    rw [component, run_bind, opened] at h
    cases h
    exact absurd delimiter (not_isDelimiter_of_consume (Mark.not_mem_closerNames rfl) opened)
  | ok first s₁ =>
    obtain ⟨opens, rfl⟩ := mark_eq_ok_iff.1 opened
    cases scan : Suffix.scan s₁.stop 0 s₁.ahead with
    | ok r =>
      have found : suffix.run s₁ = .ok r.1 { s₁ with ahead := r.2 } :=
        suffix_eq_ok_iff.2 ⟨Suffix.scan_eq_ok_iff.1 scan, rfl⟩
      exact absurd delimiter (not_isDelimiter_of_component opened found h)
    | error e' =>
      rw [run_component_of_scan opens scan] at h
      cases h
      obtain ⟨before, opener, behind, ahead, tells⟩ := Suffix.exists_unclosed_of_scan scan kind
      exact ⟨first :: before, opener, behind, by simp [ahead], tells⟩

theorem tellsOf_of_group (ahead : s.ahead = t :: ts) (opens : t.opens?.isSome = true)
    (h : group.run s = .error (.rejected e) s') (kind : e.kind = .unclosedDelimiter) :
    e.TellsOf t ts s.stop := by
  rw [group, run_bind_of_ok run_get, ahead] at h
  cases read : Group.read (t :: ts) with
  | ok r =>
    simp only [read] at h
    cases h
  | error fault =>
    simp only [read] at h
    obtain ⟨failure, -⟩ := EStateM.Result.error.inj h
    exact tellsOf_of_groupFailure opens read failure kind

/-- Whenever a tag fails with an error of this kind, or a group that is asked for at a bracket, the
error names the bracket of a group which the tokens do not close. It is reported at their end, so at
that bracket exactly if they end where it starts. -/
theorem tellsOf_unclosed (kind : e.kind = .unclosedDelimiter) :
    (∀ config s', (component config).run s = .error (.rejected e) s' →
      ∃ before opener behind, s.ahead = before ++ opener :: behind ∧
        e.TellsOf opener behind s.stop ∧ (e.location = opener.start ↔ s.stop = opener.start)) ∧
    ∀ opener behind s', s.ahead = opener :: behind → opener.opens?.isSome = true →
      group.run s = .error (.rejected e) s' →
        e.TellsOf opener behind s.stop ∧ (e.location = opener.start ↔ s.stop = opener.start) := by
  constructor
  · intro config s' fails
    obtain ⟨before, opener, behind, ahead, tells⟩ := exists_unclosed_of_component fails kind
    exact ⟨before, opener, behind, ahead, tells, by rw [tells.location]⟩
  · intro opener behind s' ahead opens fails
    have tells := tellsOf_of_group ahead opens fails kind
    exact ⟨tells, by rw [tells.location]⟩

end Parser

/-! ## In a source -/

/-- The end of a source is behind each of its tokens. -/
theorem Token.start_lt_stop_of_lex {file source : String} {x : Lexing}
    (h : lex file source = .ok x) (mem : t ∈ x.tokens) : t.start.offset < x.stop.offset := by
  have spelled := (isSpelling_of_lex h t mem).ne_nil
  obtain ⟨ps, -, -, rfl⟩ := lex_eq_ok_iff.1 h
  have stop := Lexing.stop_le_of_mem mem
  rw [Token.offset_stop, ← Lexing.stop_ofPieces] at stop
  have := List.length_pos_iff.2 spelled
  omega

/-- So no such error is reported at the bracket that it names, wherever reading has come to. -/
theorem ParseError.TellsOf.location_ne {file source : String} {x : Lexing} {behind : List Token}
    (tells : e.TellsOf opener behind x.stop) (h : lex file source = .ok x)
    (left : opener :: behind <:+ x.tokens) : e.location ≠ opener.start := by
  intro same
  have before := Token.start_lt_stop_of_lex h (left.subset List.mem_cons_self)
  rw [← tells.location, same] at before
  exact Nat.lt_irrefl _ before

namespace LeftOpen

/-- The tag `<A b={x`, which ends in a block. -/
def lexing : Lexing where
  tokens := [⟨.mark .lessThan, "<", ⟨"<markup>", 1, 1, 0⟩⟩,
    ⟨.identifier, "A", ⟨"<markup>", 1, 2, 1⟩⟩, ⟨.identifier, "b", ⟨"<markup>", 1, 4, 3⟩⟩,
    ⟨.mark .assign, "=", ⟨"<markup>", 1, 5, 4⟩⟩, ⟨.mark .leftBrace, "\x7b", ⟨"<markup>", 1, 6, 5⟩⟩,
    ⟨.identifier, "x", ⟨"<markup>", 1, 7, 6⟩⟩]
  errors := []
  stop := ⟨"<markup>", 1, 8, 7⟩

theorem lex_eq : lex "<markup>" "<A b=\x7bx" = .ok lexing := by decide +kernel

theorem exists_error : ∃ e s', (Parser.component .standard).run (.ofLexing lexing) =
    .error (.rejected e) s' ∧ e.kind = .unclosedDelimiter := by
  let s : TokenStream := .ofLexing { lexing with tokens := lexing.tokens.tail }
  let e : ParseError := .unclosedDelimiter lexing.tokens[4] lexing.stop
  have scan : Suffix.scan s.stop 0 s.ahead = .error (.rejected e) := by decide +kernel
  exact ⟨e, s, Parser.run_component_of_scan rfl scan, rfl⟩

end LeftOpen

namespace Parser

theorem tellsOf_unclosed_leftOpen :
    ∃ e s', (component .standard).run (.ofLexing LeftOpen.lexing) = .error (.rejected e) s' ∧
      e.kind = .unclosedDelimiter ∧
      ∃ before opener behind, LeftOpen.lexing.tokens = before ++ opener :: behind ∧
        e.TellsOf opener behind LeftOpen.lexing.stop := by
  obtain ⟨e, s', fails, kind⟩ := LeftOpen.exists_error
  obtain ⟨before, opener, behind, ahead, tells, -⟩ :=
    (tellsOf_unclosed (s := .ofLexing LeftOpen.lexing) kind).1 .standard s' fails
  exact ⟨e, s', fails, kind, before, opener, behind, ahead, tells⟩

/-- In the source of an open block, the error is reported behind the last token. -/
theorem unclosed_reported_at_end :
    lex "<markup>" "<A b=\x7bx" = .ok LeftOpen.lexing ∧
      ∃ e s', (component .standard).run (.ofLexing LeftOpen.lexing) = .error (.rejected e) s' ∧
        e.kind = .unclosedDelimiter ∧ ∀ t, e.token = some t → e.location ≠ t.start := by
  refine ⟨LeftOpen.lex_eq, ?_⟩
  obtain ⟨e, s', fails, kind⟩ := LeftOpen.exists_error
  refine ⟨e, s', fails, kind, fun t named => ?_⟩
  obtain ⟨before, opener, behind, ahead, tells⟩ := exists_unclosed_of_component fails kind
  cases tells.token.symm.trans named
  exact tells.location_ne LeftOpen.lex_eq ⟨before, ahead.symm⟩

end Parser

end ComponentMarkup
