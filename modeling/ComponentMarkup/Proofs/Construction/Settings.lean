import ComponentMarkup.Construction.Emission
import ComponentMarkup.Proofs.Construction.Rendering
import ComponentMarkup.Proofs.Parsing.Labels

/-!
# What a construction depends on

Of the properties of a tag a construction only uses the labels, the rendered values and the ways to
convert these. Sorted by label, distinct properties make the same list in whatever order they were
declared.

## Main definitions

* `Setting` — what is left of a property once it is rendered.
* `ComponentTag.given` — what is left of the properties of a tag.

## Main statements

* `mergeSort_key_eq_of_perm` — sorting forgets the order that distinct keys come in.
* `Property.Alike.setting_eq` — a property comes to the same setting wherever it stands.
* `PropertyList.map_setting_ordered` — the order of declaration does not matter.
* `Construction.of?_eq_of_given` — a construction only uses what is left of the properties.
* `Emission.construction_eq` — tags with the same settings have the same construction.
-/

namespace ComponentMarkup

structure Setting where
  label : String
  value : String
  conversion : FieldType → Conversion

def Property.setting (p : Property) : Setting := ⟨p.key, p.value.render, Conversion.resolve p.value⟩

theorem Property.Alike.setting_eq {p q : Property} (h : p.Alike q) :
    q.setting = p.setting := by
  simp only [setting, h.key, h.value.render_eq, funext h.value.resolve_eq]

/-! ## Sorting by a key -/

section

variable {α : Type} {key : α → String}

/-- Entries with distinct keys are sorted to the same list in whatever order they come. -/
theorem mergeSort_key_eq_of_perm {as bs : List α} (perm : as.Perm bs)
    (distinct : (as.map key).Nodup) :
    (as.mergeSort fun a b => key a ≤ key b) = bs.mergeSort fun a b => key a ≤ key b := by
  have same : (as.mergeSort fun a b => key a ≤ key b).Perm
      (bs.mergeSort fun a b => key a ≤ key b) :=
    (List.mergeSort_perm ..).trans (perm.trans (List.mergeSort_perm ..).symm)
  refine same.eq_of_pairwise ?_ (pairwise_mergeSort_key key as) (pairwise_mergeSort_key key bs)
  intro a b ha hb hab hba
  -- Entries of the same key are one and the same.
  rw [List.mem_mergeSort] at ha hb
  exact List.inj_on_of_nodup_map distinct ha (perm.mem_iff.2 hb) (Std.le_antisymm hab hba)

end

namespace PropertyList

variable {ps qs : List Property}

/-- Declarations with distinct labels all count. -/
theorem winners_of_nodup (h : (ps.map Property.key).Nodup) : winners ps = ps := by
  induction ps with
  | nil => rfl
  | cons p ps ih =>
    rw [List.map_cons, List.nodup_cons] at h
    have last : ps.any (·.key = p.key) = false := by
      have : ∀ q ∈ ps, q.key ≠ p.key := fun q hq same => h.1 (List.mem_map.2 ⟨q, hq, same⟩)
      simpa using this
    rw [winners, last, ih h.2]
    rfl

theorem map_setting_ordered_eq_mergeSort :
    (ordered ps).map Property.setting =
      (ps.map Property.setting).mergeSort fun a b => a.label ≤ b.label :=
  List.map_mergeSort fun _ _ _ _ => rfl

theorem map_setting_ordered (perm : (ps.map Property.setting).Perm (qs.map Property.setting))
    (distinct : (ps.map Property.key).Nodup) :
    (ordered ps).map Property.setting = (ordered qs).map Property.setting := by
  rw [map_setting_ordered_eq_mergeSort, map_setting_ordered_eq_mergeSort]
  refine mergeSort_key_eq_of_perm perm ?_
  rw [List.map_map]
  exact distinct

theorem ordered_eq_of_perm (perm : ps.Perm qs) (distinct : (ps.map Property.key).Nodup) :
    ordered ps = ordered qs :=
  mergeSort_key_eq_of_perm perm distinct

end PropertyList

/-! ## Constructions -/

namespace Construction

variable {schema : Schema} {type : String}

/-- The setter of a setting, if its label is a field. -/
def ofSetting? (schema : Schema) (s : Setting) : Option Setter :=
  (schema.field? s.label).map fun field => ⟨s.label, s.value, s.conversion field.type⟩

theorem mapM_setter? (ps : List Property) :
    ps.mapM (setter? schema) = (ps.map Property.setting).mapM (ofSetting? schema) := by
  rw [List.mapM_map]
  rfl

end Construction

/-- What a construction uses of the properties of a tag. -/
inductive GivenProperties where
  | nothing
  | settings (l : List Setting)
  | delegate (name : String)

def ComponentTag.given (c : ComponentTag) : GivenProperties :=
  match c.properties with
  | none => .nothing
  | some (.list l) => .settings (l.properties.map Property.setting)
  | some (.delegate d) => .delegate d.name.lexeme

/-- The properties that a component is built with, if all labels are fields. -/
def GivenProperties.value? (componentType : String) (schema : Schema) :
    GivenProperties → Option PropertiesValue
  | nothing => some (.default componentType)
  | settings l => (l.mapM (Construction.ofSetting? schema)).map (.builder componentType)
  | delegate name => some (.delegate name)

namespace Construction

theorem properties?_eq (componentType : String) (schema : Schema) (c : ComponentTag) :
    properties? componentType schema c.properties = c.given.value? componentType schema := by
  unfold ComponentTag.given
  cases c.properties with
  | none => rfl
  | some spec =>
    cases spec with
    | list l => simp only [properties?, GivenProperties.value?, mapM_setter?]
    | delegate d => rfl

theorem of?_eq_of_given {names : RuntimeNames} {schema : Schema} {c c' : ComponentTag}
    (path : c'.typePath.text = c.typePath.text) (given : c'.given = c.given) :
    of? names schema c' = of? names schema c := by
  unfold of?
  rw [path, properties?_eq, properties?_eq, given]

end Construction

/-- The settings of a tag without a delegate. -/
inductive ComponentTag.HasSettings (c : ComponentTag) : Option (List Setting) → Prop where
  | none : c.properties = none → HasSettings c none
  | list {l : PropertyList} : c.properties = some (.list l) →
      HasSettings c (some (l.properties.map Property.setting))

theorem ComponentTag.HasSettings.given_eq {c : ComponentTag} {settings : Option (List Setting)}
    (h : c.HasSettings settings) :
    c.given = settings.elim .nothing GivenProperties.settings := by
  cases h with
  | none spec => rw [given, spec]; rfl
  | list spec => rw [given, spec]; rfl

namespace Emission

variable {registry : Registry} {config : Config} {c c' : ComponentTag} {k k' : Construction}

theorem schema?_eq_some_iff {r : Report} {schema : Schema} :
    schema? r = some schema ↔
      r.errors = [] ∧ r.type?.bind TypeInfo.properties? = some schema := by
  simp [schema?, Report.isOk]

/-- A construction is made with the schema of the type that the path leads to. -/
theorem exists_schema_of_construction (h : (of registry config c).construction = some k) :
    ∃ schema, (registry.lookup? c.typePath.text).bind TypeInfo.properties? = some schema ∧
      Construction.of? (.ofConfig config) schema c = some k := by
  obtain ⟨schema, hschema, built⟩ := Option.bind_eq_some_iff.1 h
  refine ⟨schema, ?_, built⟩
  rw [← Registry.properties?_validate]
  exact (schema?_eq_some_iff.1 hschema).2

theorem construction_eq {settings : Option (List Setting)}
    (h : (of registry config c).construction = some k)
    (h' : (of registry config c').construction = some k') (hs : c.HasSettings settings)
    (hs' : c'.HasSettings settings) (path : c'.typePath.text = c.typePath.text) : k' = k := by
  obtain ⟨schema, found, built⟩ := exists_schema_of_construction h
  obtain ⟨schema', found', built'⟩ := exists_schema_of_construction h'
  rw [path, found] at found'
  cases found'
  have given : c'.given = c.given := hs'.given_eq.trans hs.given_eq.symm
  rw [Construction.of?_eq_of_given path given, built] at built'
  exact (Option.some.inj built').symm

end Emission

end ComponentMarkup
