import ComponentMarkup.Proofs.Compilation.Emission
import ComponentMarkup.Proofs.Lexing.Integers

/-!
# Safety of a compilation

Behind the lexer a compilation fails only by an error that it reports, never because something that
it relies on is missing.

## Main definitions

* `Compilation.IsSound` — everything that emitted code needs is there.
* `SafeOutcome` — no failure but an error that is reported.

## Main statements

* `compile_safe` — how a compilation ends.
-/

namespace ComponentMarkup

open Grammar

namespace Grammar

variable {config : Config} {ts : List Token}

/-- An integer is the value of one of the tokens, up to its sign. -/
theorem IsExpression.exists_integer {e : Expression} (h : IsExpression ts e) {n : Int}
    {span : Source.Span} (literal : e = .literal (.integer n) span) :
    ∃ t ∈ ts, t.content = .integer n.natAbs := by
  cases h with
  | @literal t value hvalue =>
    cases literal
    refine ⟨t, List.mem_cons_self, ?_⟩
    cases content : t.content <;> simp_all [Content.literal?]
    omega
  | @negative minus number value isMinus negated =>
    cases literal
    refine ⟨number, by simp, ?_⟩
    generalize number.content = content at negated
    cases negated
    simp
  | block | path | call => cases literal

/-- An integer that a tag sets a property to is one of its tokens, up to the sign. -/
theorem IsInterior.exists_integer {span : Source.Span} {c : ComponentTag}
    (h : IsInterior config span ts c) {p : Property} (mem : p ∈ c.declared) {n : Int}
    {span : Source.Span} (literal : p.value = .literal (.integer n) span) :
    ∃ t ∈ ts, t.content = .integer n.natAbs := by
  obtain ⟨us, isProperty, inTag⟩ := h.exists_property mem
  obtain ⟨vs, isExpression, inProperty⟩ := isProperty.exists_expression
  obtain ⟨t, ht, content⟩ := isExpression.exists_integer literal
  exact ⟨t, inTag.subset (inProperty.subset ht), content⟩

end Grammar

/-- What emitted code relies on. -/
structure Compilation.IsSound (c : Compilation) (schema : Schema) : Prop where
  /-- The schema is the one of the tag's type. -/
  schema_eq : c.report.type?.bind TypeInfo.properties? = some schema
  /-- Every property that is looked up in the schema is found there. -/
  fields : ∀ p ∈ c.tag.declared, schema.hasField p.key = true
  /-- Every conversion can be followed as far as the type of its field is optional. -/
  conversions : ∀ s ∈ c.construction.properties.setters,
    ∃ field, schema.field? s.label = some field ∧ s.conversion.Fits field.type
  /-- No integer is too long to be written. -/
  integers : ∀ p ∈ c.tag.declared, ∀ n span, p.value = .literal (.integer n) span →
    n.natAbs < 10 ^ maxDigits

/-- How a compilation may end: without a tag, with a construction, or with an error that the parser
or the validation reports. -/
inductive SafeOutcome : Except CompileError (Option Compilation) → Prop where
  | noTag : SafeOutcome (.ok none)
  | construction {c : Compilation} {schema : Schema} : c.IsSound schema → SafeOutcome (.ok (some c))
  | rejected (e : ParseError) : SafeOutcome (.error (.parsing (.rejected e)))
  | invalid (e : SemanticError) : SafeOutcome (.error (.semantic e))

/-- A source that is lexed without error is compiled safely, whatever the registry. -/
theorem compile_safe {registry : Registry} {config : Config} {file : Option String}
    {source : String} {x : Lexing} (h : lex (fileName config file) source = .ok x) :
    SafeOutcome (compile registry config file source) := by
  rw [compile_of_lex h]
  split
  case isFalse => exact .noTag
  case isTrue =>
    have reported := Stage.tag_reported config (.ofLexing x)
    cases run : (Stage.tag config).run (.ofLexing x) with
    | error e s =>
      rw [run] at reported
      cases reported with
      | rejected e s => exact .rejected e
    | ok result s =>
      obtain ⟨c, warnings⟩ := result
      rcases Emission.outcome_of registry config c with
          ⟨e, failed⟩ | ⟨schema, construction, done, hschema, fields, conversions⟩
      · simp only [failed]
        exact .invalid e
      · simp only [done]
        refine .construction ⟨hschema, fields, conversions, ?_⟩
        -- An integer of the tag is a token of the source, and those are not too long.
        intro p hp n span literal
        obtain ⟨opener, slash, closer, inside, -, -, -, ahead, isInterior⟩ := Stage.tag_sound run
        obtain ⟨t, ht, content⟩ := isInterior.exists_integer hp literal
        have mem : t ∈ x.tokens := by
          have : x.tokens = opener :: (inside ++ [slash, closer]) := ahead
          simp [this, ht]
        exact lt_of_lex_integer h mem content

/-- A closer that fits no opener is met while looking for the end of the tag. -/
theorem compile_safe_misplaced_closer :
    SafeOutcome (compile .empty .standard none "<A b=\x7b]/>") := by
  have lexed : lex (fileName .standard none) "<A b=\x7b]/>" = .ok {
      tokens := [⟨.mark .lessThan, "<", ⟨"<markup>", 1, 1, 0⟩⟩,
        ⟨.identifier, "A", ⟨"<markup>", 1, 2, 1⟩⟩, ⟨.identifier, "b", ⟨"<markup>", 1, 4, 3⟩⟩,
        ⟨.mark .assign, "=", ⟨"<markup>", 1, 5, 4⟩⟩,
        ⟨.mark .leftBrace, "\x7b", ⟨"<markup>", 1, 6, 5⟩⟩,
        ⟨.mark .rightBracket, "]", ⟨"<markup>", 1, 7, 6⟩⟩,
        ⟨.mark .slash, "/", ⟨"<markup>", 1, 8, 7⟩⟩,
        ⟨.mark .greaterThan, ">", ⟨"<markup>", 1, 9, 8⟩⟩]
      errors := []
      stop := ⟨"<markup>", 1, 10, 9⟩ } := by decide +kernel
  exact compile_safe lexed

end ComponentMarkup
