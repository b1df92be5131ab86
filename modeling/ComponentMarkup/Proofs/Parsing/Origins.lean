import ComponentMarkup.Proofs.Parsing.Delimiters
import ComponentMarkup.Proofs.Parsing.Readings

/-!
# Where the errors of a tag are reported

An interior is read as a stream of its own, so its errors are about its own tokens. An error at
their end is about no token; it is reported at the slash behind them, and nothing of it is lost.

## Main definitions

* `ParseError.origin?` — what an error was before it was reported at another token.
* `ParseError.IsReanchored` — an error that is reported at another token.
* `ParseError.IsReportOf` — what a tag makes of an error of its interior.

## Main statements

* `ParseError.isReportOf_of_isAbout` — an error about the tokens of an interior.
* `Parser.isReportOf_of_component` — a tag fails for its interior.
-/

namespace ComponentMarkup

namespace ParseError

/-- The error that was reported at the place of the cause, where there was no token. -/
def origin? (e : ParseError) : Option ParseError :=
  e.cause.map fun l => {
    e with
    diagnostic := { e.diagnostic with location := l, span := none }
    token := none
    cause := none }

/-- The error `inner`, reported at the token `t`. -/
structure IsReanchored (inner : ParseError) (t : Token) (e : ParseError) : Prop where
  origin : e.origin? = some inner
  location : e.location = t.start
  span : e.span = some t.span
  token : e.token = some t
  message : e.diagnostic.message = inner.diagnostic.message
  code : e.diagnostic.code = inner.diagnostic.code
  help : e.diagnostic.help = inner.diagnostic.help
  suggestions : e.diagnostic.suggestions = inner.diagnostic.suggestions

/-- What is told of the error `inner` of the tokens `ts` in front of `slash`: at the end of the
tokens it is told of at the slash, otherwise as it is. -/
inductive IsReportOf (inner : ParseError) (ts : List Token) (slash : Token) : ParseError → Prop
  | atSlash {e : ParseError} : inner.kind = .unexpectedEnd → inner.IsReanchored slash e →
      IsReportOf inner ts slash e
  | inside {t : Token} : inner.kind ≠ .unexpectedEnd → t ∈ ts → inner.token = some t →
      inner.location = t.start → IsReportOf inner ts slash inner

theorem isReanchored_unexpectedEnd (expected : String) (l : Source.Location) (t : Token) :
    (unexpectedEnd expected l).IsReanchored t
      (((unexpectedEnd expected l).reanchored t).causedAt (unexpectedEnd expected l).location) :=
  ⟨rfl, rfl, rfl, rfl, rfl, rfl, rfl, rfl⟩

theorem isReportOf_of_isAbout {inner : ParseError} {ts : List Token} (h : inner.IsAbout ts)
    (slash : Token) :
    ∃ e, (Failure.rejected inner).atSlash slash = .rejected e ∧ inner.IsReportOf ts slash e := by
  cases h with
  | atEnd expected l =>
    exact ⟨_, rfl, .atSlash rfl (isReanchored_unexpectedEnd expected l slash)⟩
  | token kind mem names at_t =>
    exact ⟨inner, by rw [Failure.atSlash, if_neg kind], .inside kind mem names at_t⟩

end ParseError

/-- A tag that a slash ends fails for its interior: at the slash if the interior fails at its end,
and otherwise at one of the tokens of the interior. -/
theorem Parser.isReportOf_of_component {config : Config} {s s₁ s₂ s' : TokenStream}
    {opener slash : Token} {x : Suffix} {f : Failure}
    (opened : (mark .lessThan).run s = .ok opener s₁) (found : suffix.run s₁ = .ok x s₂)
    (isSlash : x.slash = some slash) (run : (component config).run s = .error f s') :
    ∃ inner e s₃,
      (interior config (opener.spanTo x.closer)).run ⟨x.interior, slash.start, [], []⟩ =
        .error (.rejected inner) s₃ ∧
      f = .rejected e ∧ inner.IsReportOf x.interior slash e := by
  obtain ⟨e', s₃, fails, rfl⟩ := exists_interior_of_component opened found isSlash run
  have grouped := (suffix_eq_ok_iff.1 found).1.grouped
  obtain ⟨-, inner, rfl, about⟩ := isAbout_of_interior grouped fails
  obtain ⟨e, rejected, report⟩ := ParseError.isReportOf_of_isAbout about slash
  exact ⟨inner, e, s₃, fails, rejected, report⟩

/-- The value that is missing is asked for at the slash. -/
theorem Parser.isReportOf_of_component_cutShort :
    ∃ opener s₁ x s₂ slash f s', (mark .lessThan).run CutShort.alone = .ok opener s₁ ∧
      suffix.run s₁ = .ok x s₂ ∧ x.slash = some slash ∧
      (component .standard).run CutShort.alone = .error f s' ∧
      ∃ inner e s₃,
        (interior .standard (opener.spanTo x.closer)).run ⟨x.interior, slash.start, [], []⟩ =
          .error (.rejected inner) s₃ ∧
        f = .rejected e ∧ inner.IsReportOf x.interior slash e := by
  have opened : (mark .lessThan).run CutShort.alone =
      .ok CutShort.opener { CutShort.alone with ahead := CutShort.suffix.tokens } := rfl
  have found : suffix.run { CutShort.alone with ahead := CutShort.suffix.tokens } =
      .ok CutShort.suffix { CutShort.alone with ahead := [] } :=
    suffix_eq_ok_iff.2 ⟨.selfClosing (.single rfl rfl rfl nofun nofun
      (.single rfl rfl rfl nofun nofun (.single rfl rfl rfl nofun nofun .nil))) rfl rfl, rfl⟩
  cases run : (component .standard).run CutShort.alone with
  | ok r s' =>
    have fails : ((component .standard).run CutShort.alone matches .error ..) = true := by
      decide +kernel
    rw [run] at fails
    cases fails
  | error f s' =>
    exact ⟨_, _, _, _, _, f, s', opened, found, rfl, rfl,
      isReportOf_of_component opened found rfl run⟩

end ComponentMarkup
