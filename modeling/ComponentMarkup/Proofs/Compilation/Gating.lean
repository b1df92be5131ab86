import ComponentMarkup.Proofs.Compilation.Emission
import ComponentMarkup.Proofs.Construction.Settings

/-!
# Validation in front of emission

An emission looks up the fields of labels that validation has found to be fields, and takes over the
order of the labels and that they are distinct from the parser.

## Main definitions

* `Violations` — what a report says of a tag that is not valid.
* `PropertiesValue.BuiltFrom` — what properties are built with, for each of their forms.
* `Emission.Gated` — what validation and emission have to do with each other.

## Main statements

* `Parser.ascending_of_component` — the labels of a tag that is read strictly ascend.
* `Registry.violations_of_ascending` — a tag has one violation of its type, or one for each label.
* `Emission.gated_of_component` — a construction is made for a tag exactly if it is valid.
-/

namespace ComponentMarkup

/-- The labels of a tag that is read are in strictly ascending order. -/
theorem Parser.ascending_of_component {config : Config} {s s' : TokenStream} {c : ComponentTag}
    {ws : List Warning} (h : (component config).run s = .ok (c, ws) s') :
    (c.declared.map Property.key).Pairwise (· < ·) := by
  obtain ⟨opener, slash, closer, inside, inner, -, -, -, -, run⟩ := component_sound h
  obtain ⟨-, -, isProperties⟩ := interior_sound run
  cases isProperties with
  | none | delegate => exact .nil
  | list => exact Grammar.ascending_kept _ _

/-! ## Violations -/

/-- What a report says of a tag that is not valid: its type is not known, or it is no component, or
there are labels that are no fields, each of which is told once, in ascending order. -/
inductive Violations (registry : Registry) (c : ComponentTag) : List SemanticError → Prop where
  | unknownType {e : SemanticError} : registry.lookup? c.typePath.text = none →
      e = .unknownType c.typePath (Text.similar c.typePath.text registry.knownPaths) →
      e.diagnostic.code = "S002" → Violations registry c [e]
  | notAComponent {e : SemanticError} {info : TypeInfo} :
      registry.lookup? c.typePath.text = some info → info.isComponent = false →
      e = .notAComponent c.typePath info.kind → e.diagnostic.code = "S006" →
      Violations registry c [e]
  | unknownProperties {es : List SemanticError} {schema : Schema} {unknown : List Property} :
      (registry.lookup? c.typePath.text).bind TypeInfo.properties? = some schema →
      (∀ p, p ∈ unknown ↔ p ∈ c.declared ∧ schema.hasField p.key = false) →
      (unknown.map Property.key).Pairwise (· < ·) →
      es = (unknown.map fun p =>
        .unknownProperty p.label schema.name (Text.similar p.key schema.fieldNames)) →
      (∀ e ∈ es, e.diagnostic.code = "S010") → es ≠ [] → Violations registry c es

theorem Schema.check_eq (schema : Schema) (c : ComponentTag) :
    schema.check c.properties =
      (c.declared.filter fun p => !schema.hasField p.key).map fun p =>
        .unknownProperty p.label schema.name (Text.similar p.key schema.fieldNames) := by
  have each : schema.check? = fun p =>
      if !schema.hasField p.key then
        some (.unknownProperty p.label schema.name (Text.similar p.key schema.fieldNames))
      else none := by
    funext p
    cases known : schema.hasField p.key <;> simp [check?, known]
  unfold ComponentTag.declared
  cases c.properties with
  | none => rfl
  | some spec =>
    cases spec with
    | delegate d => rfl
    | list l =>
      rw [← List.filterMap_eq_map, List.filterMap_filter]
      exact congrArg (l.properties.filterMap ·) each

theorem Registry.violations_of_ascending {registry : Registry} {c : ComponentTag}
    (ascending : (c.declared.map Property.key).Pairwise (· < ·))
    (invalid : (registry.validate c).errors ≠ []) :
    Violations registry c (registry.validate c).errors := by
  cases found : registry.lookup? c.typePath.text with
  | none =>
    simp only [validate, found]
    exact .unknownType found rfl rfl
  | some info =>
    cases properties : info.properties? with
    | none =>
      simp only [validate, found, properties]
      exact .notAComponent found (by simp [TypeInfo.isComponent, properties]) rfl rfl
    | some schema =>
      have lookup : (registry.lookup? c.typePath.text).bind TypeInfo.properties? = some schema := by
        rw [found, Option.bind_some, properties]
      simp only [validate, found, properties, schema.check_eq c] at invalid ⊢
      rw [List.pairwise_map] at ascending
      refine .unknownProperties lookup (fun p => ?_) ?_ rfl ?_ invalid
      · simp
      · rw [List.pairwise_map]
        exact ascending.filter _
      · intro e he
        obtain ⟨p, -, rfl⟩ := List.mem_map.1 he
        rfl

/-! ## Properties that are built -/

theorem forall₂_of_mapM_eq_some {α β : Type} {f : α → Option β} {as : List α} {bs : List β}
    (h : as.mapM f = some bs) : List.Forall₂ (fun a b => f a = some b) as bs := by
  induction as generalizing bs with
  | nil =>
    cases h
    exact .nil
  | cons a as ih =>
    rw [List.mapM_cons] at h
    obtain ⟨b, first, h⟩ := Option.bind_eq_some_iff.1 h
    obtain ⟨more, rest, h⟩ := Option.bind_eq_some_iff.1 h
    cases h
    exact .cons first (ih rest)

/-- What is set for a property: its value as it is rendered, converted for the field. -/
structure Setter.Sets (schema : Schema) (p : Property) (s : Setter) : Prop where
  label : s.label = p.key
  value : s.value = p.value.render
  conversion : ∃ field, schema.field? p.key = some field ∧
    s.conversion = Conversion.resolve p.value field.type

/-- What properties are built with: one setter for each property, in ascending order of the labels;
the delegate as it is written; or nothing. -/
inductive PropertiesValue.BuiltFrom (type : String) (schema : Schema) :
    Option PropertySpec → PropertiesValue → Prop where
  | builder {l : PropertyList} {setters : List Setter} :
      List.Forall₂ (Setter.Sets schema) l.properties setters →
      (setters.map Setter.label).Pairwise (· < ·) →
      BuiltFrom type schema (some (.list l)) (.builder type setters)
  | delegate {d : Delegate} {v : PropertiesValue} : v = .delegate d.name.lexeme →
      (∀ names, v.source names = d.name.lexeme) →
      BuiltFrom type schema (some (.delegate d)) v
  | default {v : PropertiesValue} : v = .default type →
      (∀ names, v.source names = (PropertiesValue.builder type []).source names) →
      BuiltFrom type schema none v

namespace Construction

variable {schema : Schema} {type : String}

theorem sets_of_setter? {p : Property} {s : Setter} (h : setter? schema p = some s) :
    s.Sets schema p := by
  obtain ⟨field, found, rfl⟩ := Option.map_eq_some_iff.1 h
  exact ⟨rfl, rfl, field, found, rfl⟩

theorem map_label_eq {ps : List Property} {setters : List Setter}
    (h : List.Forall₂ (Setter.Sets schema) ps setters) :
    setters.map Setter.label = ps.map Property.key := by
  induction h with
  | nil => rfl
  | cons first _ ih => rw [List.map_cons, List.map_cons, first.label, ih]

theorem builtFrom_of_properties? {c : ComponentTag} {v : PropertiesValue}
    (ascending : (c.declared.map Property.key).Pairwise (· < ·))
    (h : properties? type schema c.properties = some v) :
    PropertiesValue.BuiltFrom type schema c.properties v := by
  unfold ComponentTag.declared at ascending
  match spec : c.properties with
  | none =>
    rw [spec] at h
    cases h
    exact .default rfl fun _ => rfl
  | some (.delegate d) =>
    rw [spec] at h
    cases h
    exact .delegate rfl fun _ => rfl
  | some (.list l) =>
    rw [spec] at h ascending
    obtain ⟨setters, built, rfl⟩ := Option.map_eq_some_iff.1 h
    have sets := (forall₂_of_mapM_eq_some built).imp fun _ _ => sets_of_setter?
    exact .builder sets (map_label_eq sets ▸ ascending)

end Construction

/-! ## Emissions -/

namespace Emission

/-- Validation stands in front of emission: there is a construction exactly if nothing is wrong,
that is if the type is a component and all labels are fields. Otherwise it is told what is wrong. -/
structure Gated (registry : Registry) (config : Config) (c : ComponentTag) : Prop where
  emits_iff : (of registry config c).construction.isSome = true ↔
    (of registry config c).report.errors = []
  valid_iff : (of registry config c).report.errors = [] ↔
    ∃ schema, (registry.lookup? c.typePath.text).bind TypeInfo.properties? = some schema ∧
      ∀ p ∈ c.declared, schema.hasField p.key = true
  violations : (of registry config c).report.errors ≠ [] →
    Violations registry c (of registry config c).report.errors
  built : ∀ k, (of registry config c).construction = some k →
    ∃ schema, (registry.lookup? c.typePath.text).bind TypeInfo.properties? = some schema ∧
      k.componentType = c.typePath.text ∧
      PropertiesValue.BuiltFrom c.typePath.text schema c.properties k.properties

theorem isSome_construction_iff (registry : Registry) (config : Config) (c : ComponentTag) :
    (of registry config c).construction.isSome = true ↔ (registry.validate c).errors = [] := by
  constructor
  · intro emitted
    obtain ⟨k, emitted⟩ := Option.isSome_iff_exists.1 emitted
    obtain ⟨schema, valid, -⟩ := Option.bind_eq_some_iff.1 emitted
    exact (schema?_eq_some_iff.1 valid).1
  · intro valid
    obtain ⟨schema, k, emitted, -⟩ := exists_construction config valid
    rw [emitted]
    rfl

/-- A construction is made for a tag that is read exactly if the tag is valid, out of all that the
tag declares. -/
theorem gated_of_component {parsing : Config} {s s' : TokenStream} {c : ComponentTag}
    {ws : List Warning} (h : (Parser.component parsing).run s = .ok (c, ws) s')
    (registry : Registry) (config : Config) : Gated registry config c where
  emits_iff := isSome_construction_iff registry config c
  valid_iff := Registry.errors_validate_eq_nil_iff
  violations := Registry.violations_of_ascending (Parser.ascending_of_component h)
  built k emitted := by
    obtain ⟨schema, found, built⟩ := exists_schema_of_construction emitted
    obtain ⟨v, properties, rfl⟩ := Option.map_eq_some_iff.1 built
    exact ⟨schema, found, rfl,
      Construction.builtFrom_of_properties? (Parser.ascending_of_component h) properties⟩

end Emission

/-! ### A tag with a label that is no field -/

namespace Unfitting

/-- The tag `<A b=1 a=2/>`. -/
def stream : TokenStream where
  ahead := [⟨.mark .lessThan, "<", ⟨"p", 1, 1, 0⟩⟩, ⟨.identifier, "A", ⟨"p", 1, 2, 1⟩⟩,
    ⟨.identifier, "b", ⟨"p", 1, 4, 3⟩⟩, ⟨.mark .assign, "=", ⟨"p", 1, 5, 4⟩⟩,
    ⟨.integer 1, "1", ⟨"p", 1, 6, 5⟩⟩, ⟨.identifier, "a", ⟨"p", 1, 8, 7⟩⟩,
    ⟨.mark .assign, "=", ⟨"p", 1, 9, 8⟩⟩, ⟨.integer 2, "2", ⟨"p", 1, 10, 9⟩⟩,
    ⟨.mark .slash, "/", ⟨"p", 1, 11, 10⟩⟩, ⟨.mark .greaterThan, ">", ⟨"p", 1, 12, 11⟩⟩]
  stop := ⟨"p", 1, 13, 12⟩

def registry : Registry := { types := [⟨"A", .component ⟨"AProps", [⟨"a", .mk "i32" []⟩]⟩⟩] }

theorem exists_tag : ∃ c ws s, (Parser.component .standard).run stream = .ok (c, ws) s := by
  have isRead : ((TagReader.mk .standard []).read stream).1.isOk = true := by decide +kernel
  unfold TagReader.read at isRead
  split at isRead
  case h_1 c ws s run => exact ⟨c, ws, s, run⟩
  case h_2 => cases isRead

end Unfitting

/-- The labels are not in order as they are declared, and one of them is no field. -/
theorem Emission.gated_of_component_unfitting :
    ∃ c ws s, (Parser.component .standard).run Unfitting.stream = .ok (c, ws) s ∧
      Emission.Gated Unfitting.registry .standard c := by
  obtain ⟨c, ws, s, run⟩ := Unfitting.exists_tag
  exact ⟨c, ws, s, run, Emission.gated_of_component run Unfitting.registry .standard⟩

end ComponentMarkup
