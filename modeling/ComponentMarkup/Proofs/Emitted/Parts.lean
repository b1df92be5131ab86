import ComponentMarkup.Proofs.Compilation.Gating
import ComponentMarkup.Proofs.Emitted.Inert

/-!
# The parts of emitted code

Emitted code is inert but for a few parts: the module of the runtime names, the string literals, and
the tokens of blocks and arguments. All of it stands in brackets that match.

## Main definitions

* `Composed` — code that is put together from parts.
* `ComponentTag.groups` — the tokens of the blocks and arguments of a tag.
* `ComponentTag.HasPart` — the parts of the code for a tag.

## Main statements

* `Composed.expression` — the expression of a construction is composed if its values are.
* `exists_tokens_of_compile` — what compiles has been read from the tokens of its source.
* `composed_of_compile` — the code that comes out of a compilation is composed of its parts.
-/

namespace ComponentMarkup

open Grammar

/-- Inert characters and parts, and either of them in round brackets. A part never stands in front
of an apostrophe. -/
inductive Composed (Part : List Char → Prop) : List Char → Prop where
  | nil : Composed Part []
  | inert {c : Char} {s : List Char} : c ∉ telling → Composed Part s → Composed Part (c :: s)
  | part {p s : List Char} :
      Part p → s.head? ≠ some '\'' → Composed Part s → Composed Part (p ++ s)
  | brackets {s t : List Char} :
      Composed Part s → Composed Part t → Composed Part ('(' :: s ++ ')' :: t)

namespace Composed

variable {Part : List Char → Prop} {s t : List Char}

theorem inert_append (hs : Inert s) (ht : Composed Part t) : Composed Part (s ++ t) := by
  induction s with
  | nil => exact ht
  | cons c s ih =>
    obtain ⟨first, more⟩ := List.forall_mem_cons.1 hs
    exact .inert first (ih more)

theorem of_inert (hs : Inert s) : Composed Part s := by
  have composed : Composed Part (s ++ []) := .inert_append hs .nil
  rwa [List.append_nil] at composed

theorem of_part (hs : Part s) : Composed Part s := by
  have composed : Composed Part (s ++ []) := .part hs (by simp) .nil
  rwa [List.append_nil] at composed

/-- A name of the runtime. -/
theorem qualify {names : RuntimeNames} (runtime : Part names.runtimeModule.toList) (name : String)
    (inert : Inert name.toList) (ht : Composed Part t) :
    Composed Part ((names.qualify name).toList ++ t) := by
  unfold RuntimeNames.qualify
  split
  · exact .inert_append inert ht
  · have member : Composed Part ('.' :: (name.toList ++ t)) :=
      .inert (by decide) (.inert_append inert ht)
    have qualified := Composed.part runtime (by simp) member
    simpa [toString] using qualified

/-! ## Settings -/

variable {names : RuntimeNames} {schema : Schema}

theorem convert (runtime : Part names.runtimeModule.toList)
    (scope : Inert names.scopeVariable.toList) {value : String}
    (hv : Composed Part value.toList) (conversion : Conversion) :
    Composed Part (Setter.convert names value conversion).toList := by
  have given : Composed Part (names.scopeVariable.toList ++ (", ".toList ++ value.toList)) :=
    .inert_append scope (.inert_append (by decide) hv)
  -- Callbacks and all other values that are converted are arguments behind the scope.
  have called (name : String) (inert : Inert name.toList) :
      Composed Part ((names.qualify name).toList ++
        ('(' :: (names.scopeVariable.toList ++ (", ".toList ++ value.toList)) ++ [')'])) :=
    .qualify runtime name inert (.brackets given .nil)
  induction conversion with
  | identity => exact hv
  | optional target inner ih => exact ih
  | ownedString =>
    have copied : Composed Part ("str".toList ++ ('(' :: value.toList ++ [')'])) :=
      .inert_append (by decide) (.brackets hv .nil)
    simpa [Setter.convert, toString] using copied
  | callback => simpa [Setter.convert, toString] using called "VComp.callback" (by decide)
  | generic => simpa [Setter.convert, toString] using called "VComp.transform" (by decide)

theorem setters {ps : List Property} {setters : List Setter}
    (sets : List.Forall₂ (Setter.Sets schema) ps setters)
    (runtime : Part names.runtimeModule.toList) (scope : Inert names.scopeVariable.toList)
    (keys : ∀ p ∈ ps, Inert p.key.toList)
    (values : ∀ p ∈ ps, Composed Part p.value.render.toList) (ht : Composed Part t) :
    Composed Part (setters.flatMap (fun s => (s.source names).toList) ++ t) := by
  induction sets with
  | nil => exact ht
  | @cons p setter ps setters first _ ih =>
    obtain ⟨key, keys⟩ := List.forall_mem_cons.1 keys
    obtain ⟨value, values⟩ := List.forall_mem_cons.1 values
    have rendered : Composed Part (setter.rendered names).toList := by
      unfold Setter.rendered
      rw [first.value]
      exact .convert runtime scope value _
    rw [← first.label] at key
    have set := Composed.inert (by decide : '.' ∉ telling)
      (.inert_append key (.brackets rendered (ih keys values)))
    simpa [Setter.source, toString] using set

/-! ## Constructions -/

theorem builder {type : String} (typeInert : Inert type.toList) {setters : List Setter}
    (chain : ∀ {t}, Composed Part t →
      Composed Part (setters.flatMap (fun s => (s.source names).toList) ++ t))
    (ht : Composed Part t) :
    Composed Part ((PropertiesValue.builderSource type setters names).toList ++ t) := by
  have closing : Composed Part (".build".toList ++ ('(' :: [] ++ ')' :: t)) :=
    .inert_append (by decide) (.brackets .nil ht)
  have opening := Composed.inert_append (by decide : Inert ".Properties.builder".toList)
    (.brackets .nil (chain closing))
  have whole := Composed.inert_append (Path.inert_dotted typeInert) opening
  simpa [PropertiesValue.builderSource, String.toList_join, List.flatMap_map, toString] using whole

theorem properties {type : String} {c : ComponentTag} {v : PropertiesValue}
    (built : Construction.properties? type schema c.properties = some v)
    (typeInert : Inert type.toList) (runtime : Part names.runtimeModule.toList)
    (scope : Inert names.scopeVariable.toList) (keys : ∀ p ∈ c.declared, Inert p.key.toList)
    (values : ∀ p ∈ c.declared, Composed Part p.value.render.toList)
    (delegate : ∀ d, c.properties = some (.delegate d) → Inert d.name.lexeme.toList)
    (ht : Composed Part t) : Composed Part ((v.source names).toList ++ t) := by
  unfold ComponentTag.declared at keys values
  match spec : c.properties with
  | none =>
    rw [spec] at built
    cases built
    exact .builder typeInert (fun ht => ht) ht
  | some (.delegate d) =>
    rw [spec] at built
    cases built
    exact .inert_append (delegate d spec) ht
  | some (.list l) =>
    rw [spec] at built keys values
    obtain ⟨setters, mapped, rfl⟩ := Option.map_eq_some_iff.1 built
    have sets := (forall₂_of_mapM_eq_some mapped).imp fun _ _ => Construction.sets_of_setter?
    exact .builder typeInert (fun ht => .setters sets runtime scope keys values ht) ht

/-- Properties are an argument between the type and the scope. -/
theorem expression {k : Construction} (typeInert : Inert k.componentType.toList)
    (runtime : Part k.names.runtimeModule.toList) (scope : Inert k.names.scopeVariable.toList)
    (source : ∀ {t}, Composed Part t → Composed Part ((k.properties.source k.names).toList ++ t)) :
    Composed Part k.expression.toList := by
  have arguments : Composed Part ((Path.dotted k.componentType).toList ++ (", ".toList ++
      ((k.properties.source k.names).toList ++ (", ".toList ++ k.names.scopeVariable.toList)))) :=
    .inert_append (Path.inert_dotted typeInert) (.inert_append (by decide)
      (source (.inert_append (by decide) (.of_inert scope))))
  have component := Composed.qualify runtime "VComp" (by decide)
    (.inert_append (by decide : Inert ".new".toList) (.brackets arguments .nil))
  have node := Composed.qualify runtime "VNode" (by decide)
    (.inert_append (by decide : Inert ".VComp".toList) (.brackets component .nil))
  simpa [Construction.expression, toString] using node

theorem scope {k : Construction} (runtime : Part k.names.runtimeModule.toList)
    (scope : Inert k.names.scopeVariable.toList) : Composed Part k.scope.toList := by
  have made := Composed.inert_append (scope.append (by decide : Inert " = ".toList))
    (.qualify runtime "ScopeHolder" (by decide) (.brackets .nil .nil))
  simpa [Construction.scope, toString] using made

end Composed
/-! ## Tags that are read -/

/-- The tokens between the brackets of a block or a call. -/
def Expression.group? : Expression → Option (List Token)
  | block tokens _ => some tokens
  | call _ arguments _ => some arguments
  | literal .. | path _ => none

/-- The tokens of the blocks and arguments that a tag declares. -/
def ComponentTag.groups (c : ComponentTag) : List (List Token) :=
  c.declared.filterMap fun p => p.value.group?

/-- What is not inert in the code for a tag. -/
inductive ComponentTag.HasPart (c : ComponentTag) (runtimeModule : String) : List Char → Prop where
  | runtime : HasPart c runtimeModule runtimeModule.toList
  | string (s : List Text.CodePoint) : HasPart c runtimeModule (Text.quote s)
  | group {ts : List Token} : ts ∈ c.groups → HasPart c runtimeModule (renderTokens ts).toList

namespace Grammar

variable {config : Config} {ts : List Token}

theorem IsExpression.composed {e : Expression} (h : IsExpression ts e) (spelled : Spelled ts)
    {Part : List Char → Prop} (string : ∀ s, Part (Text.quote s))
    (group : ∀ us, e.group? = some us → Part (renderTokens us).toList) :
    Composed Part e.render.toList := by
  have inBrackets (us : List Token) (hus : e.group? = some us) :
      Composed Part ('(' :: (renderTokens us).toList ++ [')']) :=
    .brackets (.of_part (group us hus)) .nil
  cases h with
  | @literal t value =>
    by_cases isString : ∃ s, value = .string s
    · obtain ⟨s, rfl⟩ := isString
      simpa [Expression.render, Value.text] using Composed.of_part (string s)
    · exact .of_inert (Value.inert_text fun s eq => isString ⟨s, eq⟩)
  | @negative minus number value _ negated =>
    generalize number.content = content at negated
    cases negated <;> exact .of_inert (Value.inert_text (by simp))
  | @block opener closer inside =>
    simpa [Expression.render, toString] using inBrackets inside rfl
  | @path ts p isPath => exact .of_inert (Path.inert_dotted (isPath.inert_text spelled))
  | @call ts inside p opener closer isPath =>
    have inert := isPath.inert_text (spelled.of_subset (List.subset_append_left ts _))
    have whole := Composed.inert_append (Path.inert_dotted inert) (inBrackets inside rfl)
    simpa [Expression.render, toString] using whole

/-- Brackets match inside a block and inside a call. -/
theorem IsExpression.group {e : Expression} (h : IsExpression ts e) {us : List Token}
    (hus : e.group? = some us) : Balanced us ∧ us ⊆ ts := by
  cases h with
  | literal | negative | path => cases hus
  | block _ balanced =>
    cases hus
    exact ⟨balanced, by simp⟩
  | call _ _ balanced =>
    cases hus
    exact ⟨balanced, fun t ht => by simp [ht]⟩

theorem IsProperty.inert_key {p : Property} (h : IsProperty ts p) (spelled : Spelled ts) :
    Inert p.key.toList := by
  cases h with
  | @mk name assign us comma e isName =>
    have key :
        Property.key ⟨⟨name, [], name.span⟩, e, ⟨name.start, e.span.stop⟩⟩ = name.lexeme := by
      simp [Property.key, Label.text]
    rw [key]
    exact spelled.inert_name (by simp) isName

theorem IsInterior.inert_typePath {span : Source.Span} {c : ComponentTag}
    (h : IsInterior config span ts c) (spelled : Spelled ts) : Inert c.typePath.text.toList := by
  obtain @⟨path, colon, us, typePath, properties, isPath, -, -⟩ := h
  exact isPath.inert_text (spelled.of_subset (by simp))

theorem IsInterior.inert_delegate {span : Source.Span} {c : ComponentTag}
    (h : IsInterior config span ts c) (spelled : Spelled ts) {d : Delegate}
    (hd : c.properties = some (.delegate d)) : Inert d.name.lexeme.toList := by
  obtain @⟨path, colon, us, typePath, properties, -, -, isProperties⟩ := h
  cases isProperties with
  | none | list => cases hd
  | delegate _ _ isName =>
    cases hd
    exact spelled.inert_name (by simp) isName

end Grammar

/-! ## Compilations -/

/-- What compiles has been read from the tokens of its source. -/
theorem exists_tokens_of_compile {registry : Registry} {config : Config} {file : Option String}
    {source : String} {c : Compilation}
    (done : compile registry config file source = .ok (some c)) :
    ∃ span ts, Spelled ts ∧ IsInterior config span ts c.tag ∧
      (Emission.of registry config c.tag).construction = some c.construction := by
  obtain ⟨x, lexed⟩ := exists_lex_of_compile done
  obtain ⟨⟨s, run⟩, emitted⟩ := exists_tag_of_compile lexed done
  obtain ⟨opener, slash, closer, inside, -, -, -, ahead, isInterior⟩ := Stage.tag_sound run
  refine ⟨_, inside, ?_, isInterior, emitted⟩
  have tokens : x.tokens = opener :: (inside ++ [slash, closer]) := ahead
  intro t ht
  exact isSpelling_of_lex lexed t (by simp [tokens, ht])

/-- The tokens of a block or of arguments are spelled as tokens of a source, and brackets match. -/
theorem balanced_of_compile {registry : Registry} {config : Config} {file : Option String}
    {source : String} {c : Compilation}
    (done : compile registry config file source = .ok (some c)) {ts : List Token}
    (mem : ts ∈ c.tag.groups) : Balanced ts ∧ Spelled ts := by
  obtain ⟨span, us, spelled, isInterior, -⟩ := exists_tokens_of_compile done
  obtain ⟨p, hp, group⟩ := List.mem_filterMap.1 mem
  obtain ⟨vs, isProperty, inTag⟩ := isInterior.exists_property hp
  obtain ⟨ws, isExpression, inProperty⟩ := isProperty.exists_expression
  obtain ⟨balanced, inExpression⟩ := isExpression.group group
  exact ⟨balanced, spelled.of_subset fun t ht => inTag.subset (inProperty.subset (inExpression ht))⟩

/-- Both lines that come out of a compilation are composed of their parts. -/
theorem composed_of_compile {registry : Registry} {config : Config} {file : Option String}
    {source : String} {c : Compilation}
    (done : compile registry config file source = .ok (some c)) :
    c.construction.names = .ofConfig config ∧
      Composed (c.tag.HasPart config.runtimeModule) c.construction.scope.toList ∧
      Composed (c.tag.HasPart config.runtimeModule) c.construction.expression.toList := by
  obtain ⟨span, ts, spelled, isInterior, emitted⟩ := exists_tokens_of_compile done
  obtain ⟨schema, -, built⟩ := Emission.exists_schema_of_construction emitted
  obtain ⟨v, properties, eq⟩ := Option.map_eq_some_iff.1 built
  have scope := Text.inert_of_isWord config.scopeVariable_isWord
  have typeInert := isInterior.inert_typePath spelled
  rw [← eq]
  refine ⟨rfl, .scope .runtime scope, .expression typeInert .runtime scope fun ht => ?_⟩
  refine .properties properties typeInert .runtime scope (fun p hp => ?_) (fun p hp => ?_)
    (fun d hd => isInterior.inert_delegate spelled hd) ht
  · obtain ⟨us, isProperty, inTag⟩ := isInterior.exists_property hp
    exact isProperty.inert_key (spelled.of_subset inTag.subset)
  · obtain ⟨us, isProperty, inTag⟩ := isInterior.exists_property hp
    obtain ⟨vs, isExpression, inProperty⟩ := isProperty.exists_expression
    refine isExpression.composed (spelled.of_subset (inProperty.trans inTag).subset) .string ?_
    intro ws hws
    exact .group (List.mem_filterMap.2 ⟨p, hp, hws⟩)

end ComponentMarkup
