import ComponentMarkup.Proofs.Compilation.Gating
import ComponentMarkup.Proofs.Schema.KnownPaths
import ComponentMarkup.Proofs.Text.Similar

/-!
# Names that are proposed

An error about a name proposes names that are similar. For a type these are the paths that the
registry tells of, among them the aliases, of which some stand for no type but for what paths begin
with. For a label they are the fields of the component.

## Main definitions

* `SemanticError.Proposes` — the question of an error whether a name was meant.
* `Registry.Mends` — a name of a type by which a tag gets rid of the error.
* `ComponentTag.Relabels` — a tag where one label was replaced.
* `Proposal` — what there is to a name that is proposed.

## Main statements

* `Registry.lookup?_of_alias` — what the name of an alias leads to.
* `Schema.perm_messages_of_relabels` — a label that is replaced by a field is the only error less.
* `Registry.proposal_of_proposes` — every name that is proposed is a path, an alias or a field.
-/

namespace ComponentMarkup

/-! ## Names of aliases -/

theorem Path.IsFirst.eq_of_isSegment {path head rest : String} (h : IsFirst path head rest)
    (segment : IsSegment path) : head = path ∧ rest = "" := by
  have append := h.append
  rcases h.behind with rfl | ⟨tail, rfl⟩
  · exact ⟨by simpa using append.symm, rfl⟩
  · refine absurd ?_ (segment head tail)
    rw [append, String.append_assoc]

/-- The name of an alias leads to just its target, which may be no type. -/
theorem Registry.lookup?_of_alias {r : Registry} (h : r.Canonical) {name target : String}
    (free : r.type? name = none) (isAlias : r.aliases.lookup name = some target) :
    r.lookup? name = r.type? target := by
  have mem : (name, target) ∈ r.aliases := by
    obtain ⟨before, after, split, -⟩ := List.lookup_eq_some_iff.1 isAlias
    simp [split]
  obtain ⟨segment, normal⟩ := h.segment _ mem
  dsimp only at segment normal
  obtain ⟨head, rest, isFirst, found⟩ := lookup?_of_type?_eq_none (normal.symm ▸ free)
  rw [normal] at isFirst
  obtain ⟨rfl, rfl⟩ := isFirst.eq_of_isSegment segment
  rw [found, isAlias, Option.bind_some, String.append_empty]

/-! ## Questions -/

namespace SemanticError

/-- Whether an error asks if a name was meant. -/
def Proposes (e : SemanticError) (name : String) : Prop :=
  s!"Did you mean '{name}'?" ∈ e.diagnostic.suggestions.getD []

variable {word name : String} {candidates : List String}

theorem mem_didYouMean_similar_iff :
    s!"Did you mean '{name}'?" ∈ didYouMean (Text.similar word candidates) ↔
      name ∈ Text.similar word candidates := by
  rw [didYouMean, Text.take_similar]
  constructor
  · intro asked
    obtain ⟨other, mem, same⟩ := List.mem_map.1 asked
    have : other = name := by simpa [← String.toList_inj, toString] using same
    exact this ▸ mem
  · intro mem
    exact List.mem_map_of_mem mem

theorem proposes_unknownType_iff {p : TypePath} :
    (unknownType p (Text.similar word candidates)).Proposes name ↔
      name ∈ Text.similar word candidates := by
  rw [← mem_didYouMean_similar_iff]
  constructor
  · intro proposed
    rcases List.mem_append.1 proposed with asked | other
    · exact asked
    · have := List.mem_singleton.1 other
      simp [← String.toList_inj, toString] at this
  · exact List.mem_append_left _

theorem proposes_unknownProperty_iff {l : Label} {properties : String} :
    (unknownProperty l properties (Text.similar word candidates)).Proposes name ↔
      name ∈ Text.similar word candidates :=
  mem_didYouMean_similar_iff

end SemanticError

/-! ## Labels that are replaced -/

/-- A tag that has the label `new` where `c` has `old`. The labels may have got another order, and
all else may be different but the path. -/
structure ComponentTag.Relabels (c : ComponentTag) (old new : String) (c' : ComponentTag) :
    Prop where
  path : c'.typePath.text = c.typePath.text
  labels : (old :: c'.declared.map Property.key).Perm (new :: c.declared.map Property.key)

namespace Schema

variable (schema : Schema) (c : ComponentTag)

theorem map_message_check :
    (schema.check c.properties).map (·.diagnostic.message) =
      ((c.declared.map Property.key).filter (!schema.hasField ·)).map fun label =>
        s!"no field `{label}` on type `{schema.name}`" := by
  rw [schema.check_eq, List.filter_map, List.map_map, List.map_map]
  rfl

variable {schema c}

/-- A label that is no field is one error, which goes with it. -/
theorem perm_messages_of_relabels {old new : String} {c' : ComponentTag}
    (unknown : schema.hasField old = false) (known : schema.hasField new = true)
    (h : c.Relabels old new c') :
    ((schema.check c.properties).map (·.diagnostic.message)).Perm
      (s!"no field `{old}` on type `{schema.name}`" ::
        (schema.check c'.properties).map (·.diagnostic.message)) := by
  have kept := (h.labels.filter (!schema.hasField ·)).map fun label =>
    s!"no field `{label}` on type `{schema.name}`"
  rw [List.filter_cons_of_pos (by simp [unknown]),
    List.filter_cons_of_neg (by simp [known])] at kept
  rw [map_message_check, map_message_check]
  exact kept.symm

end Schema

/-! ## Proposals -/

/-- Whether no tag of that type path has the error that its type is not known. -/
def Registry.Mends (r : Registry) (name : String) : Prop :=
  ∀ c : ComponentTag, c.typePath.text = name →
    ∀ e ∈ (r.validate c).errors, e.diagnostic.code ≠ "S002"

/-- What there is to a name that is proposed by an error of a tag. -/
inductive Proposal (r : Registry) (c : ComponentTag) (e : SemanticError) (name : String) :
    Prop where
  /-- A type, which is found by its path unless a double colon has stayed in front. -/
  | type {t : TypeInfo} : e.diagnostic.code = "S002" → t ∈ r.types → t.path = name →
      (¬ Path.IsRooted name → r.lookup? name = some t ∧ r.Mends name) → Proposal r c e name
  /-- An alias, which leads to a type if its target is one. -/
  | alias {target : String} : e.diagnostic.code = "S002" → r.type? name = none →
      r.aliases.lookup name = some target → r.lookup? name = r.type? target →
      (∀ t, r.type? target = some t → r.Mends name) → Proposal r c e name
  /-- A field, by which one label can be replaced that is none. -/
  | field {schema : Schema} {p : Property} : e.diagnostic.code = "S010" →
      (r.lookup? c.typePath.text).bind TypeInfo.properties? = some schema →
      schema.hasField name = true → p ∈ c.declared →
      e = .unknownProperty p.label schema.name (Text.similar p.key schema.fieldNames) →
      (∀ c', c.Relabels p.key name c' →
        ((r.validate c).errors.map (·.diagnostic.message)).Perm
          (e.diagnostic.message :: (r.validate c').errors.map (·.diagnostic.message))) →
      Proposal r c e name

namespace Registry

variable {r : Registry} {c : ComponentTag}

theorem errors_validate_of_lookup?_eq_none (h : r.lookup? c.typePath.text = none) :
    (r.validate c).errors =
      [.unknownType c.typePath (Text.similar c.typePath.text r.knownPaths)] := by
  simp only [validate, h]

theorem errors_validate_of_properties? {schema : Schema}
    (h : (r.lookup? c.typePath.text).bind TypeInfo.properties? = some schema) :
    (r.validate c).errors = schema.check c.properties := by
  obtain ⟨info, found, properties⟩ := Option.bind_eq_some_iff.1 h
  simp only [validate, found, properties]

theorem mends_of_lookup? {name : String} {t : TypeInfo} (h : r.lookup? name = some t) :
    r.Mends name := by
  rintro c rfl e he
  cases properties : t.properties? with
  | none =>
    simp only [validate, h, properties, List.mem_singleton] at he
    subst he
    simp [SemanticError.notAComponent]
  | some schema =>
    rw [errors_validate_of_properties? (by rw [h, Option.bind_some, properties]),
      schema.check_eq] at he
    obtain ⟨p, -, rfl⟩ := List.mem_map.1 he
    simp [SemanticError.unknownProperty]

theorem proposal_of_unknownType (h : r.Canonical) {e : SemanticError}
    (he : e = .unknownType c.typePath (Text.similar c.typePath.text r.knownPaths)) {name : String}
    (proposed : e.Proposes name) : Proposal r c e name := by
  have code : e.diagnostic.code = "S002" := by rw [he]; rfl
  rw [he] at proposed
  have known := Text.mem_of_mem_similar (SemanticError.proposes_unknownType_iff.1 proposed)
  cases found : r.type? name with
  | some t =>
    obtain ⟨mem, rfl⟩ := (type?_eq_some_iff h).1 found
    refine .type code mem rfl fun plain => ?_
    have found := lookup?_path_of_not_isRooted h mem plain
    exact ⟨found, mends_of_lookup? found⟩
  | none =>
    rcases mem_knownPaths_iff.1 known with ⟨t, mem, same⟩ | ⟨target, mem⟩
    · exact absurd same (type?_eq_none_iff.1 found t mem)
    · cases isAlias : r.aliases.lookup name with
      | none => simpa using List.lookup_eq_none_iff.1 isAlias _ mem
      | some latest =>
        have leads := lookup?_of_alias h found isAlias
        exact .alias code found isAlias leads fun t ht => mends_of_lookup? (leads.trans ht)

theorem proposal_of_unknownProperty {schema : Schema}
    (found : (r.lookup? c.typePath.text).bind TypeInfo.properties? = some schema)
    {e : SemanticError} (he : e ∈ schema.check c.properties) {name : String}
    (proposed : e.Proposes name) : Proposal r c e name := by
  rw [schema.check_eq] at he
  obtain ⟨p, mem, rfl⟩ := List.mem_map.1 he
  obtain ⟨declared, rejected⟩ := List.mem_filter.1 mem
  have unknown : schema.hasField p.key = false := by simpa using rejected
  have isField : name ∈ schema.fieldNames :=
    Text.mem_of_mem_similar (SemanticError.proposes_unknownProperty_iff.1 proposed)
  have known : schema.hasField name = true := by
    obtain ⟨f, mem, same⟩ := List.mem_map.1 isField
    simp only [Schema.hasField, Schema.field?, List.find?_isSome]
    exact ⟨f, mem, by simpa using same⟩
  refine .field rfl found known declared rfl fun c' h => ?_
  have found' : (r.lookup? c'.typePath.text).bind TypeInfo.properties? = some schema := by
    rwa [h.path]
  rw [errors_validate_of_properties? found, errors_validate_of_properties? found']
  exact Schema.perm_messages_of_relabels unknown known h

/-- A name that is proposed for a type is registered or an alias, and one that is proposed for a
label is a field. Whoever follows it gets rid of the error, unless the alias stands for no type. -/
theorem proposal_of_proposes (cs : List Change) {c : ComponentTag} {e : SemanticError}
    (he : e ∈ ((empty.history cs).validate c).errors) {name : String} (proposed : e.Proposes name) :
    Proposal (empty.history cs) c e name := by
  cases found : (empty.history cs).lookup? c.typePath.text with
  | none =>
    rw [errors_validate_of_lookup?_eq_none found] at he
    exact proposal_of_unknownType (canonical_history cs) (List.mem_singleton.1 he) proposed
  | some info =>
    cases properties : info.properties? with
    | none =>
      simp only [validate, found, properties, List.mem_singleton] at he
      subst he
      cases proposed
    | some schema =>
      have found : ((empty.history cs).lookup? c.typePath.text).bind TypeInfo.properties? =
          some schema := by rw [found, Option.bind_some, properties]
      rw [errors_validate_of_properties? found] at he
      exact proposal_of_unknownProperty found he proposed

end Registry

/-! ### Misspelt names -/

namespace Misspelt

/-- The registry has one component, and an alias for what its path begins with. -/
def changes : List Change :=
  [.addComponent "app::Card" ⟨"CardProps", [⟨"title", .mk "String" []⟩]⟩, .addAlias "ui" "app"]

def place : Source.Span := ⟨⟨"p", 1, 2, 1⟩, ⟨"p", 1, 9, 8⟩⟩

def name (lexeme : String) : Token := ⟨.identifier, lexeme, place.start⟩

def property (label : String) : Property := ⟨⟨name label, [], place⟩, .block [] place, place⟩

def tag (first : String) (more labels : List String) : ComponentTag where
  typePath := ⟨false, name first, more.map name, place⟩
  properties := some (.list ⟨labels.map property, place⟩)
  span := place

/-- Both names that are known are proposed for a path that is no more than two edits away. -/
theorem exists_error_of_unknown (first : String) (more : List String) (path : String)
    (unknown : (Registry.empty.history changes).lookup? (tag first more []).typePath.text = none)
    (known : path ∈ ["app::Card", "ui"])
    (near : (Text.distanceFrom (tag first more []).typePath.text path : Int) ≤ 2) :
    ∃ e ∈ ((Registry.empty.history changes).validate (tag first more [])).errors,
      e.diagnostic.code = "S002" ∧ e.Proposes path := by
  have told : (Registry.empty.history changes).types.map TypeInfo.path ++
      (Registry.empty.history changes).aliases.map (·.1) = ["app::Card", "ui"] := by decide
  rw [Registry.errors_validate_of_lookup?_eq_none unknown, Registry.knownPaths, told]
  refine ⟨_, List.mem_singleton_self _, rfl, SemanticError.proposes_unknownType_iff.2 ?_⟩
  refine (Text.mem_similar_iff _ _ ?_).2 ⟨?_, near⟩
  · rw [List.length_mergeSort]
    decide
  · rwa [List.mem_mergeSort, List.mem_eraseDups]

theorem exists_error_of_label :
    ∃ e ∈ ((Registry.empty.history changes).validate (tag "ui" ["Card"] ["titel"])).errors,
      e.Proposes "title" := by
  have near : "title" ∈ Text.similar "titel" ["title"] :=
    (Text.mem_similar_iff _ _ (by decide)).2 ⟨List.mem_cons_self, by decide +kernel⟩
  exact ⟨_, List.mem_cons_self, SemanticError.proposes_unknownProperty_iff.2 near⟩

end Misspelt

open Misspelt

/-- Two characters are swapped in a path, and in a label. -/
theorem Registry.proposal_of_proposes_misspelt :
    (∃ e ∈ ((empty.history changes).validate (tag "app" ["Crad"] [])).errors,
      e.Proposes "app::Card" ∧
        Proposal (empty.history changes) (tag "app" ["Crad"] []) e "app::Card") ∧
    ∃ e ∈ ((empty.history changes).validate (tag "ui" ["Card"] ["titel"])).errors,
      e.Proposes "title" ∧
        Proposal (empty.history changes) (tag "ui" ["Card"] ["titel"]) e "title" := by
  constructor
  · obtain ⟨e, he, -, proposed⟩ :=
      exists_error_of_unknown "app" ["Crad"] "app::Card" (by decide) (by decide) (by decide +kernel)
    exact ⟨e, he, proposed, proposal_of_proposes changes he proposed⟩
  · obtain ⟨e, he, proposed⟩ := exists_error_of_label
    exact ⟨e, he, proposed, proposal_of_proposes changes he proposed⟩

/-- An alias for what a path begins with is proposed for a type, and is none. -/
theorem Registry.proposes_alias_of_no_type :
    (∃ e ∈ ((empty.history changes).validate (tag "UI" [] [])).errors,
      e.diagnostic.code = "S002" ∧ e.Proposes "ui") ∧
    (empty.history changes).lookup? "ui" = none ∧
    ∃ e ∈ ((empty.history changes).validate (tag "ui" [] [])).errors,
      e.diagnostic.code = "S002" := by
  have unknown : (empty.history changes).lookup? "ui" = none := by decide
  have first := exists_error_of_unknown "UI" [] "ui" (by decide) (by decide) (by decide +kernel)
  have second := errors_validate_of_lookup?_eq_none (c := tag "ui" [] []) unknown
  exact ⟨first, unknown, _, second ▸ List.mem_singleton_self _, rfl⟩

end ComponentMarkup
