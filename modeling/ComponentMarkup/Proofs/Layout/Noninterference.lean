import ComponentMarkup.Proofs.Compilation.Emission
import ComponentMarkup.Proofs.Construction.Settings
import ComponentMarkup.Proofs.Layout.Tags

/-!
# The layout does not matter

Two sources of the same tokens are compiled the same if their tokens touch each other at the same
places wherever they are kept token by token. Only places in the reports can tell them apart.

## Main definitions

* `SemanticError.Alike` — violations that are the same but for the places.
* `SameOutcome` — compilations that come to the same but for the places.

## Main statements

* `Registry.validate_alike` — the violations of a tag.
* `Emission.construction_of_alike` — the construction of a tag.
* `compile_sameOutcome` — a whole compilation.
-/

namespace ComponentMarkup

variable {registry : Registry} {config : Config} {c c' : ComponentTag}

/-! ## Validation -/

/-- The same violation in another place. -/
structure SemanticError.Alike (e e' : SemanticError) : Prop where
  code : e'.diagnostic.code = e.diagnostic.code
  message : e'.diagnostic.message = e.diagnostic.message

theorem SemanticError.unknownType_alike {p q : TypePath} (names : List String)
    (h : q.text = p.text) : (unknownType p names).Alike (unknownType q names) := by
  unfold unknownType
  exact ⟨rfl, by rw [h]⟩

theorem SemanticError.notAComponent_alike {p q : TypePath} (kind : TypeKind)
    (h : q.text = p.text) : (notAComponent p kind).Alike (notAComponent q kind) := by
  unfold notAComponent
  exact ⟨rfl, by rw [h]⟩

theorem SemanticError.unknownProperty_alike {l m : Label} (properties : String)
    (names : List String) (h : l.Alike m) :
    (unknownProperty l properties names).Alike (unknownProperty m properties names) := by
  unfold unknownProperty
  exact ⟨rfl, by rw [h.text]⟩

theorem Schema.check_alike {spec spec' : Option PropertySpec} (schema : Schema)
    (h : Option.Rel PropertySpec.Alike spec spec') :
    List.Forall₂ SemanticError.Alike (schema.check spec) (schema.check spec') := by
  cases h with
  | none => exact .nil
  | some alike =>
    cases alike with
    | delegate => exact .nil
    | list properties =>
      refine List.rel_filterMap (fun p q alike => ?_) properties
      rw [check?, check?, alike.key]
      split
      · exact .none
      · exact .some (SemanticError.unknownProperty_alike _ _ alike.label)

theorem Registry.validate_alike (registry : Registry) (h : c.Alike c') :
    (registry.validate c').type? = (registry.validate c).type? ∧
      List.Forall₂ SemanticError.Alike (registry.validate c).errors
        (registry.validate c').errors := by
  unfold validate
  simp only [h.path]
  split
  case h_1 => exact ⟨rfl, .cons (SemanticError.unknownType_alike _ h.path) .nil⟩
  case h_2 info _ =>
    split
    case h_1 => exact ⟨rfl, .cons (SemanticError.notAComponent_alike _ h.path) .nil⟩
    case h_2 schema _ => exact ⟨rfl, schema.check_alike h.properties⟩

/-! ## Emission -/

theorem Property.map_setting_eq {ps qs : List Property} (h : List.Forall₂ Property.Alike ps qs) :
    qs.map Property.setting = ps.map Property.setting := by
  induction h with
  | nil => rfl
  | cons first _ ih => simp only [List.map_cons, first.setting_eq, ih]

theorem ComponentTag.Alike.given_eq (h : c.Alike c') : c'.given = c.given := by
  have spec := h.properties
  unfold given
  generalize c.properties = spec, c'.properties = spec' at spec ⊢
  cases spec with
  | none => rfl
  | some alike =>
    cases alike with
    | delegate name => simp only [name]
    | list properties => simp only [Property.map_setting_eq properties]

namespace Emission

theorem construction_of_alike (registry : Registry) (config : Config) (h : c.Alike c') :
    (of registry config c').construction = (of registry config c).construction := by
  obtain ⟨type, errors⟩ := registry.validate_alike h
  have isOk : (registry.validate c').isOk = (registry.validate c).isOk := by
    unfold Report.isOk
    generalize (registry.validate c).errors = es, (registry.validate c').errors = es' at errors
    cases errors <;> rfl
  have schema : schema? (registry.validate c') = schema? (registry.validate c) := by
    unfold schema?
    rw [isOk, type]
  simp only [of, schema, Construction.of?_eq_of_given h.path h.given_eq]

/-- Of two tags that are alike, both are at fault alike, or the same is emitted for both. -/
theorem outcome_alike (registry : Registry) (config : Config) (h : c.Alike c') :
    (∃ e e', (of registry config c).outcome = .error (.semantic e) ∧
      (of registry config c').outcome = .error (.semantic e') ∧ e.Alike e') ∨
    ∃ k, (of registry config c).outcome = .ok (registry.validate c, k) ∧
      (of registry config c').outcome = .ok (registry.validate c', k) := by
  have errors := (registry.validate_alike h).2
  have same := construction_of_alike registry config h
  have safe := outcome_of registry config c
  have report : (of registry config c).report = registry.validate c := rfl
  have report' : (of registry config c').report = registry.validate c' := rfl
  simp only [outcome, report, report', Report.checked, same] at safe ⊢
  generalize (registry.validate c).errors = es, (registry.validate c').errors = es'
    at errors safe ⊢
  cases errors with
  | cons first _ => exact .inl ⟨_, _, rfl, rfl, first⟩
  | nil =>
    generalize (of registry config c).construction = construction at safe ⊢
    cases construction with
    | none =>
      rcases safe with ⟨e, failed⟩ | ⟨schema, k, done, -⟩
      · cases failed
      · cases done
    | some k => exact .inr ⟨k, rfl, rfl⟩

end Emission

/-! ## Compilation -/

/-- Two compilations come to the same, but for the places: to no tag, to the same source with the
same warnings, or to an error with the same message. -/
inductive SameOutcome : Except CompileError (Option Compilation) →
    Except CompileError (Option Compilation) → Prop where
  | noTag : SameOutcome (.ok none) (.ok none)
  | construction {c c' : Compilation} :
      c'.construction.source = c.construction.source →
      c'.warnings.map (·.diagnostic.message) = c.warnings.map (·.diagnostic.message) →
      SameOutcome (.ok (some c)) (.ok (some c'))
  | rejected {e e' : ParseError} :
      e'.kind = e.kind → e'.diagnostic.code = e.diagnostic.code →
      e'.diagnostic.message = e.diagnostic.message →
      SameOutcome (.error (.parsing (.rejected e))) (.error (.parsing (.rejected e')))
  | invalid {e e' : SemanticError} :
      e'.diagnostic.code = e.diagnostic.code → e'.diagnostic.message = e.diagnostic.message →
      SameOutcome (.error (.semantic e)) (.error (.semantic e'))

/-- The layout of a source does not matter outside of blocks and arguments, and there it only
matters which tokens touch each other. -/
theorem compile_sameOutcome {file file' : Option String} {source source' : String} {x y : Lexing}
    (lexed : lex (fileName config file) source = .ok x)
    (lexed' : lex (fileName config file') source' = .ok y)
    (layout : Respaced x.tokens y.tokens) :
    SameOutcome (compile registry config file source) (compile registry config file' source') := by
  have streams : (TokenStream.ofLexing x).Respaced (.ofLexing y) := ⟨layout, rfl⟩
  rw [compile_of_lex lexed, compile_of_lex lexed', TokenStream.isComponent_eq streams]
  split
  case isFalse => exact .noTag
  case isTrue =>
    have reported := Stage.tag_reported config (.ofLexing x)
    have tags : Parser.Alike (fun r r' => r.1.Alike r'.1 ∧ messages r'.2 = messages r.2)
        ((Stage.tag config).run (.ofLexing x)) ((Stage.tag config).run (.ofLexing y)) :=
      Stage.tag_alike streams
    generalize (Stage.tag config).run (.ofLexing x) = r, (Stage.tag config).run (.ofLexing y) = r'
      at reported tags ⊢
    cases tags with
    | error fails =>
      cases reported with
      | rejected e s =>
        cases fails with
        | rejected alike => exact .rejected alike.kind alike.code alike.message
    | @ok tag tag' _ _ related =>
      obtain ⟨c, warnings⟩ := tag
      obtain ⟨c', warnings'⟩ := tag'
      obtain ⟨alike, sameWarnings⟩ := related
      rcases Emission.outcome_alike registry config alike with
          ⟨e, e', failed, failed', errors⟩ | ⟨k, done, done'⟩
      · simp only [failed, failed']
        exact .invalid errors.code errors.message
      · simp only [done, done']
        exact .construction rfl sameWarnings

/-! ### A tag that is spread out -/

/-- Without a parenthesis only blocks are kept. Where a block may be is told by its braces. -/
theorem Respaced.of_braces {ts us : List Token} (relaid : Relaid ts us)
    (noCalls : ∀ t ∈ ts, t.isMark .leftParen = false)
    (blocks : ∀ n < ts.length, ∀ k < ts.length, ts[n]?.any (·.isMark .leftBrace) = true →
      ts[n + 1 + k]?.any (·.isMark .rightBrace) = true →
      gaps ((us.drop (n + 1)).take k) = gaps ((ts.drop (n + 1)).take k)) : Respaced ts us := by
  refine ⟨relaid, ?_⟩
  intro before inside after before' inside' after' eq eq' sameBefore sameInside isKept
  have middle : (ts.drop before.length).take inside.length = inside := by simp [eq]
  have middle' : (us.drop before.length).take inside.length = inside' := by
    rw [← sameBefore, ← sameInside]
    simp [eq']
  cases isKept with
  | @block first _ after assign opener closer _ opens _ closes =>
    have start : (first ++ [assign, opener]).length = first.length + 1 + 1 := by simp
    rw [start] at middle middle'
    have all : ts = first ++ [assign] ++ opener :: (inside ++ closer :: after) := by simp [eq]
    have length : ts.length = first.length + 1 + 1 + inside.length + 1 + after.length := by
      simp only [eq, List.length_append, List.length_cons, List.length_nil]
      omega
    have isOpener : ts[first.length + 1]? = some opener := by
      rw [all, List.getElem?_append_right (by simp)]
      simp
    have isCloser : ts[first.length + 1 + 1 + inside.length]? = some closer := by
      rw [eq, ← start, ← List.length_append, List.getElem?_append_right le_rfl]
      simp
    have same := blocks (first.length + 1) (by omega) inside.length (by omega)
      (by rw [isOpener]; exact opens) (by rw [isCloser]; exact closes)
    rwa [middle, middle'] at same
  | @arguments first path _ after assign opener closer _ _ _ opens _ _ =>
    have mem : opener ∈ ts := by simp [eq]
    rw [noCalls opener mem] at opens
    cases opens

namespace SpreadOut

def schema : Schema := ⟨"AProps", [⟨"b", .mk "i32" []⟩]⟩

def types : Registry := { types := [⟨"A", .component schema⟩] }

/-- The tokens of `<A b={x+ y}/>`. -/
def dense : Lexing where
  tokens := [⟨.mark .lessThan, "<", ⟨"<markup>", 1, 1, 0⟩⟩,
    ⟨.identifier, "A", ⟨"<markup>", 1, 2, 1⟩⟩, ⟨.identifier, "b", ⟨"<markup>", 1, 4, 3⟩⟩,
    ⟨.mark .assign, "=", ⟨"<markup>", 1, 5, 4⟩⟩, ⟨.mark .leftBrace, "\x7b", ⟨"<markup>", 1, 6, 5⟩⟩,
    ⟨.identifier, "x", ⟨"<markup>", 1, 7, 6⟩⟩, ⟨.mark .plus, "+", ⟨"<markup>", 1, 8, 7⟩⟩,
    ⟨.identifier, "y", ⟨"<markup>", 1, 10, 9⟩⟩,
    ⟨.mark .rightBrace, "\x7d", ⟨"<markup>", 1, 11, 10⟩⟩,
    ⟨.mark .slash, "/", ⟨"<markup>", 1, 12, 11⟩⟩,
    ⟨.mark .greaterThan, ">", ⟨"<markup>", 1, 13, 12⟩⟩]
  errors := []
  stop := ⟨"<markup>", 1, 14, 13⟩

/-- The tokens of the same tag with more space, where `x` and `+` still touch each other. -/
def spread : Lexing where
  tokens := [⟨.mark .lessThan, "<", ⟨"<markup>", 1, 1, 0⟩⟩,
    ⟨.identifier, "A", ⟨"<markup>", 1, 2, 1⟩⟩, ⟨.identifier, "b", ⟨"<markup>", 2, 1, 3⟩⟩,
    ⟨.mark .assign, "=", ⟨"<markup>", 2, 3, 5⟩⟩, ⟨.mark .leftBrace, "\x7b", ⟨"<markup>", 2, 5, 7⟩⟩,
    ⟨.identifier, "x", ⟨"<markup>", 2, 7, 9⟩⟩, ⟨.mark .plus, "+", ⟨"<markup>", 2, 8, 10⟩⟩,
    ⟨.identifier, "y", ⟨"<markup>", 2, 12, 14⟩⟩,
    ⟨.mark .rightBrace, "\x7d", ⟨"<markup>", 2, 14, 16⟩⟩,
    ⟨.mark .slash, "/", ⟨"<markup>", 2, 16, 18⟩⟩,
    ⟨.mark .greaterThan, ">", ⟨"<markup>", 2, 17, 19⟩⟩]
  errors := []
  stop := ⟨"<markup>", 2, 18, 20⟩

end SpreadOut

/-- More space does not change what comes out if `x` and `+` go on touching each other. -/
theorem compile_sameOutcome_spreadOut :
    ∃ c c',
      compile SpreadOut.types .standard none "<A b=\x7bx+ y\x7d/>" = .ok (some c) ∧
      compile SpreadOut.types .standard none "<A\nb = \x7b x+   y \x7d />" = .ok (some c') ∧
      c'.construction.source = c.construction.source := by
  have lexed : lex (fileName .standard none) "<A b=\x7bx+ y\x7d/>" = .ok SpreadOut.dense := by
    decide +kernel
  have lexed' : lex (fileName .standard none) "<A\nb = \x7b x+   y \x7d />" =
      .ok SpreadOut.spread := by
    decide +kernel
  have relaid : Relaid SpreadOut.dense.tokens SpreadOut.spread.tokens := by
    repeat' constructor
  have layout : Respaced SpreadOut.dense.tokens SpreadOut.spread.tokens :=
    .of_braces relaid (by decide) (by decide +kernel)
  have compiles :
      (compile SpreadOut.types .standard none "<A b=\x7bx+ y\x7d/>").toOption.join.isSome = true := by
    decide +kernel
  have same : SameOutcome (compile SpreadOut.types .standard none "<A b=\x7bx+ y\x7d/>")
      (compile SpreadOut.types .standard none "<A\nb = \x7b x+   y \x7d />") :=
    compile_sameOutcome lexed lexed' layout
  generalize compile SpreadOut.types .standard none "<A b=\x7bx+ y\x7d/>" = r,
    compile SpreadOut.types .standard none "<A\nb = \x7b x+   y \x7d />" = r' at compiles same ⊢
  cases same with
  | construction source _ => exact ⟨_, _, rfl, rfl, source⟩
  | noTag | rejected | invalid => cases compiles

end ComponentMarkup
