import ComponentMarkup.Proofs.Compilation.Stages
import ComponentMarkup.Proofs.Construction.Conversions

/-!
# Emission of valid tags

A tag without violations has a construction: each of its properties is a field, and its conversion
goes as deep as the type of the field is optional.

## Main definitions

* `ComponentTag.declared` — the properties that a tag declares one by one.

## Main statements

* `Construction.exists_of?` — a construction sets each declared property.
* `Emission.exists_construction` — nothing is missing behind a tag without violations.
* `Emission.outcome_of` — an emission fails only on a violation.
* `exists_tag_of_accepts` — a valid tag is compiled.
-/

namespace ComponentMarkup

open Grammar

def ComponentTag.declared (c : ComponentTag) : List Property :=
  match c.properties with
  | some (.list l) => l.properties
  | _ => []

/-- A property that a tag declares was read from some of its tokens. -/
theorem Grammar.IsInterior.exists_property {config : Config} {span : Source.Span}
    {ts : List Token} {c : ComponentTag} (h : IsInterior config span ts c) {p : Property}
    (mem : p ∈ c.declared) : ∃ us, IsProperty us p ∧ us <:+: ts := by
  obtain @⟨path, colon, ts, typePath, properties, -, -, isProperties⟩ := h
  cases isProperties with
  | none | delegate => cases mem
  | list repeated =>
    obtain ⟨us, isProperty, inside⟩ := repeated.exists_of_mem (mem_of_mem_kept mem)
    exact ⟨us, isProperty, inside.trans (List.suffix_append ..).isInfix⟩

namespace Registry

/-- A tag is without violations exactly if it has the type of a component and all its properties are
fields. -/
theorem errors_validate_eq_nil_iff {registry : Registry} {c : ComponentTag} :
    (registry.validate c).errors = [] ↔
      ∃ schema, (registry.lookup? c.typePath.text).bind TypeInfo.properties? = some schema ∧
        ∀ p ∈ c.declared, schema.hasField p.key = true := by
  unfold validate
  cases found : registry.lookup? c.typePath.text with
  | none => simp [found]
  | some info =>
    cases properties : info.properties? with
    | none => simp [found, properties]
    | some schema =>
      have check : schema.check c.properties = [] ↔
          ∀ p ∈ c.declared, schema.hasField p.key = true := by
        unfold Schema.check ComponentTag.declared
        match c.properties with
        | none | some (.delegate d) => simp
        | some (.list l) => simp [List.filterMap_eq_nil_iff, Schema.check?]
      simp [found, properties, check]

end Registry

/-- A conversion of a declared property fits the field of the same name. -/
theorem Construction.exists_of? (names : RuntimeNames) {schema : Schema} {c : ComponentTag}
    (h : ∀ p ∈ c.declared, schema.hasField p.key = true) :
    ∃ construction, of? names schema c = some construction ∧
      ∀ s ∈ construction.properties.setters,
        ∃ field, schema.field? s.label = some field ∧ s.conversion.Fits field.type := by
  unfold of?
  unfold ComponentTag.declared at h
  match spec : c.properties with
  | none => exact ⟨_, rfl, nofun⟩
  | some (.delegate d) => exact ⟨_, rfl, nofun⟩
  | some (.list l) =>
    rw [spec] at h
    obtain ⟨setters, built, origin⟩ := exists_mapM_eq_some (setter? schema) l.properties
      fun p hp => by simpa [setter?, Schema.hasField] using h p hp
    refine ⟨_, by rw [properties?, built]; rfl, fun s hs => ?_⟩
    obtain ⟨p, -, eq⟩ := origin s hs
    obtain ⟨field, found, rfl⟩ := Option.map_eq_some_iff.1 eq
    exact ⟨field, found, Conversion.resolve_fits p.value field.type⟩

namespace Emission

/-- Nothing is missing behind a tag without violations. -/
theorem exists_construction {registry : Registry} (config : Config) {c : ComponentTag}
    (valid : (registry.validate c).errors = []) :
    ∃ schema construction,
      (of registry config c).construction = some construction ∧
      (registry.validate c).type?.bind TypeInfo.properties? = some schema ∧
      (∀ p ∈ c.declared, schema.hasField p.key = true) ∧
      ∀ s ∈ construction.properties.setters,
        ∃ field, schema.field? s.label = some field ∧ s.conversion.Fits field.type := by
  obtain ⟨schema, found, fields⟩ := Registry.errors_validate_eq_nil_iff.1 valid
  have hschema := (registry.properties?_validate c).trans found
  obtain ⟨construction, built, setters⟩ :=
    Construction.exists_of? (.ofConfig config) fields
  refine ⟨schema, construction, ?_, hschema, fields, setters⟩
  simp only [of, schema?, Report.isOk, valid, List.isEmpty_nil, if_true, hschema,
    Option.bind_some, built]

/-- An emission fails only on a violation. -/
theorem outcome_of (registry : Registry) (config : Config) (c : ComponentTag) :
    (∃ e, (of registry config c).outcome = .error (.semantic e)) ∨
      ∃ schema construction,
        (of registry config c).outcome = .ok (registry.validate c, construction) ∧
        (registry.validate c).type?.bind TypeInfo.properties? = some schema ∧
        (∀ p ∈ c.declared, schema.hasField p.key = true) ∧
        ∀ s ∈ construction.properties.setters,
          ∃ field, schema.field? s.label = some field ∧ s.conversion.Fits field.type := by
  unfold outcome
  have report : (of registry config c).report = registry.validate c := rfl
  rw [report]
  cases errors : (registry.validate c).errors with
  | cons e es => exact .inl ⟨e, by simp [Report.checked, errors]⟩
  | nil =>
    obtain ⟨schema, construction, emitted, rest⟩ := exists_construction config errors
    refine .inr ⟨schema, construction, ?_, rest⟩
    simp only [Report.checked, errors, emitted]

end Emission

/-- Whatever the registry, a tag is read if its tokens are accepted, and compiled if it is valid. -/
theorem exists_tag_of_accepts (registry : Registry) {config : Config} {file : Option String}
    {source : String} {x : Lexing} (h : lex (fileName config file) source = .ok x)
    (accepted : Stage.accepts config x = true) :
    ∃ c ws s, (Stage.tag config).run (.ofLexing x) = .ok (c, ws) s ∧
      ((registry.validate c).errors = [] →
        ∃ k, compile registry config file source = .ok (some k)) := by
  obtain ⟨component, isRead⟩ := Bool.and_eq_true_iff.1 accepted
  split at isRead
  case h_2 => cases isRead
  case h_1 result s run =>
    obtain ⟨c, ws⟩ := result
    refine ⟨c, ws, s, run, fun valid => ?_⟩
    rw [compile_of_lex h, if_pos component, run]
    rcases Emission.outcome_of registry config c with
        ⟨e, failed⟩ | ⟨schema, construction, done, -⟩
    · have report : (Emission.of registry config c).report = registry.validate c := rfl
      simp only [Emission.outcome, report, Report.checked, valid] at failed
      split at failed <;> cases failed
    · exact ⟨_, by simp only [done]; rfl⟩

end ComponentMarkup
