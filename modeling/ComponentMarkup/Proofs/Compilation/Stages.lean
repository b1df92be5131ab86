import ComponentMarkup.Compilation
import ComponentMarkup.Proofs.Parsing.Failures
import ComponentMarkup.Proofs.Parsing.Interiors
import ComponentMarkup.Proofs.Parsing.Suffixes
import ComponentMarkup.Result

/-!
# The stages of a compilation

What a compilation comes to once its source has been lexed, without the journal.

## Main definitions

* `Emission.outcome` — what is made of a tag that was read.
* `Stage.accepts` — whether a tag is read.

## Main statements

* `Stage.tag_reported`, `Stage.tag_sound` — how the parser ends on a whole source.
* `compile_of_lex` — a compilation by its stages.
* `exists_tag_of_compile` — where a construction comes from.
-/

namespace ComponentMarkup

open Grammar

/-- What is made of a tag. -/
def Emission.outcome (emission : Emission) : Except CompileError (Report × Construction) :=
  match emission.report.checked with
  | .error e => .error (.semantic e)
  | .ok report =>
    match emission.construction with
    | none => .error .noConstruction
    | some construction => .ok (report, construction)

namespace Stage

/-- Whether tokens are a component tag and nothing else. -/
def accepts (config : Config) (x : Lexing) : Bool :=
  (TokenStream.ofLexing x).classifyTag?.any Classification.isComponent &&
    match (tag config).run (.ofLexing x) with
    | .ok .. => true
    | .error .. => false

variable {config : Config} {s s' : TokenStream} {c : ComponentTag} {warnings : List Warning}

theorem tag_reported (config : Config) (s : TokenStream) :
    Parser.Reported ((tag config).run s) := by
  refine Parser.component_reported.bind fun result s₁ _ => ?_
  rw [Parser.run_bind_of_ok Parser.run_peek]
  split
  case h_1 => exact .rejected ..
  case h_2 => exact .ok ..

/-- A tag has an interior, and nothing stands behind the tag. -/
theorem tag_sound (h : (tag config).run s = .ok (c, warnings) s') :
    ∃ opener slash closer inside, opener.isMark .lessThan = true ∧ slash.isMark .slash = true ∧
      closer.isMark .greaterThan = true ∧ s.ahead = opener :: (inside ++ [slash, closer]) ∧
      IsInterior config (opener.spanTo closer) inside c := by
  obtain ⟨⟨c, ws⟩, s₁, hc, h⟩ := Parser.run_bind_eq_ok.1 h
  rw [Parser.run_bind_of_ok Parser.run_peek] at h
  split at h
  case h_1 => cases h
  case h_2 done =>
    cases h
    obtain ⟨opener, slash, closer, inside, inner, isOpener, isSlash, isCloser, ahead, run⟩ :=
      Parser.component_sound hc
    rw [List.head?_eq_none_iff.1 done] at ahead
    exact ⟨opener, slash, closer, inside, isOpener, isSlash, isCloser, ahead,
      Parser.interior_sound run⟩

/-! ## Running the stages -/

theorem run_lexing {file source : String} {x : Lexing} {journal : Journal}
    (h : lex file source = .ok x) :
    (lexing file source).run journal = .ok x (journal ++ [x.note]) := by
  unfold lex at h
  unfold lexing
  cases lexed : Lexing.ofSource file source.toList with
  | error a => simp [lexed] at h
  | ok y =>
    simp only [lexed, mapError_eq_ok] at h
    have same : x = y := by
      unfold Lexing.checked at h
      split at h <;> cases h
      rfl
    subst same
    simp only [EStateM.run_bind, note, EStateM.run_modify, h]
    rfl

theorem run_lexing_of_error {file source : String} {f : LexFailure} (journal : Journal)
    (h : lex file source = .error f) :
    ∃ j, (lexing file source).run journal = .error (.lexical f) j := by
  unfold lex at h
  unfold lexing
  cases lexed : Lexing.ofSource file source.toList with
  | error a =>
    simp only [lexed] at h
    cases h
    exact ⟨journal, rfl⟩
  | ok x =>
    simp only [lexed] at h
    cases checked : x.checked with
    | ok y => simp [checked, Except.mapError] at h
    | error e =>
      simp only [checked] at h
      cases h
      simp only [EStateM.run_bind, note, EStateM.run_modify, checked]
      exact ⟨journal ++ [x.note], rfl⟩

theorem run_classifying (s : TokenStream) (journal : Journal) :
    ∃ j, (classifying s).run journal = .ok (s.classifyTag?.any Classification.isComponent) j := by
  unfold classifying
  cases s.classifyTag? with
  | none => exact ⟨_, rfl⟩
  | some c => exact ⟨_, rfl⟩

theorem run_parsing (config : Config) (s : TokenStream) (journal : Journal) :
    ∃ j, (parsing config s).run journal =
      match (tag config).run s with
      | .error e _ => .error (.parsing e) j
      | .ok result _ => .ok result j := by
  unfold parsing
  cases (tag config).run s <;> exact ⟨_, rfl⟩

theorem run_emitting (registry : Registry) (config : Config) (c : ComponentTag)
    (journal : Journal) :
    ∃ j, (emitting registry config c).run journal =
      match (Emission.of registry config c).outcome with
      | .error e => .error e j
      | .ok result => .ok result j := by
  refine ⟨journal ++ (Emission.of registry config c).journal, ?_⟩
  unfold emitting Emission.outcome
  simp only [EStateM.run_bind, note, EStateM.run_modify]
  cases (Emission.of registry config c).report.checked with
  | error e => rfl
  | ok report => cases (Emission.of registry config c).construction <;> rfl

end Stage

theorem compile_of_lex {registry : Registry} {config : Config} {file : Option String}
    {source : String} {x : Lexing} (h : lex (fileName config file) source = .ok x) :
    compile registry config file source =
      if (TokenStream.ofLexing x).classifyTag?.any Classification.isComponent then
        match (Stage.tag config).run (.ofLexing x) with
        | .error e _ => .error (.parsing e)
        | .ok (tag, warnings) _ =>
          (Emission.of registry config tag).outcome.map fun (report, construction) =>
            some ⟨tag, report, construction, warnings⟩
      else .ok none := by
  obtain ⟨j, classified⟩ := Stage.run_classifying (.ofLexing x) ([] ++ [x.note])
  unfold compile compileLogged Stage.all
  simp only [EStateM.run_bind, Stage.run_lexing h, classified]
  cases (TokenStream.ofLexing x).classifyTag?.any Classification.isComponent with
  | false => rfl
  | true =>
    obtain ⟨j', parsed⟩ := Stage.run_parsing config (.ofLexing x) j
    simp only [if_true, EStateM.run_bind, parsed]
    cases (Stage.tag config).run (.ofLexing x) with
    | error e s => rfl
    | ok result s =>
      obtain ⟨tag, warnings⟩ := result
      obtain ⟨j'', emitted⟩ := Stage.run_emitting registry config tag j'
      simp only [emitted]
      cases (Emission.of registry config tag).outcome with
      | error e => rfl
      | ok result => rfl

/-- Nothing is compiled of a source that is not lexed, and the compilation fails as the lexing. -/
theorem compile_of_lex_error {registry : Registry} {config : Config} {file : Option String}
    {source : String} {f : LexFailure} (h : lex (fileName config file) source = .error f) :
    compile registry config file source = .error (.lexical f) := by
  obtain ⟨j, failed⟩ := Stage.run_lexing_of_error [] h
  unfold compile compileLogged Stage.all
  simp only [EStateM.run_bind, failed]

/-- Only a source that is lexed without error is compiled. -/
theorem exists_lex_of_compile {registry : Registry} {config : Config} {file : Option String}
    {source : String} {result : Option Compilation}
    (done : compile registry config file source = .ok result) :
    ∃ x, lex (fileName config file) source = .ok x := by
  cases lexed : lex (fileName config file) source with
  | ok x => exact ⟨x, rfl⟩
  | error f =>
    rw [compile_of_lex_error lexed] at done
    cases done

/-- What comes out for a tag was read from the tokens, and emitted for the tag that was read. -/
theorem exists_tag_of_compile {registry : Registry} {config : Config} {file : Option String}
    {source : String} {x : Lexing} {c : Compilation}
    (h : lex (fileName config file) source = .ok x)
    (done : compile registry config file source = .ok (some c)) :
    (∃ s, (Stage.tag config).run (.ofLexing x) = .ok (c.tag, c.warnings) s) ∧
      (Emission.of registry config c.tag).construction = some c.construction := by
  rw [compile_of_lex h] at done
  split at done
  case isFalse => cases done
  case isTrue =>
    cases run : (Stage.tag config).run (.ofLexing x) with
    | error e s => simp [run] at done
    | ok result s =>
      obtain ⟨tag, warnings⟩ := result
      simp only [run] at done
      obtain ⟨⟨report, construction⟩, outcome, eq⟩ := map_eq_ok.1 done
      cases eq
      refine ⟨⟨s, rfl⟩, ?_⟩
      unfold Emission.outcome at outcome
      split at outcome
      case h_1 => cases outcome
      case h_2 =>
        split at outcome
        case h_1 => cases outcome
        case h_2 emitted =>
          cases outcome
          exact emitted

end ComponentMarkup
