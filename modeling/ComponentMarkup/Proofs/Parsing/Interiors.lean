import ComponentMarkup.Proofs.Parsing.Properties

/-!
# Reading interiors

An interior is read exactly if it is one by the grammar, and the tree that comes out is the one of
the grammar. So none of the choices that are made without looking back loses an interior.

## Main statements

* `Parser.propertyList_sound`, `Parser.run_propertyList` — all declarations of an interior.
* `Parser.declarations_unique` — tokens are declarations in one way only.
* `Parser.delegate_sound`, `Parser.delegate_complete` — a delegate.
* `Parser.interior_sound`, `Parser.interior_complete`, `Parser.interior_ok_iff` — a whole interior.
* `Parser.isProperties_of_isInterior` — what stands behind the type path of an interior.
-/

namespace ComponentMarkup

open Grammar Lookahead

/-- A declaration starts with a name, and its span with that name. -/
theorem Grammar.IsDeclaration.exists_first {ts : List Token} {p : Property}
    (h : IsDeclaration ts p) :
    ∃ t us, ts = t :: us ∧ t.isIdentifier = true ∧ p.span.start = t.start ∧
      (p.label.isPlain = true → p.key = t.lexeme) := by
  obtain @⟨ls, ts, comma, label, assign, e, isLabel, isAssign, -, -⟩ := h
  obtain @⟨ds, name, more, isName, repeated⟩ := isLabel
  refine ⟨name, ds ++ assign :: (ts ++ comma), rfl, isName, rfl, fun plain => ?_⟩
  obtain rfl : more = [] := List.isEmpty_iff.1 plain
  rfl

/-- What follows the first name of a declaration is not a name. -/
theorem Grammar.IsDeclaration.exists_second {ts : List Token} {p : Property}
    (h : IsDeclaration ts p) :
    ∃ t u us m, ts = t :: u :: us ∧ u.isMark m = true := by
  obtain @⟨ls, ts, comma, label, assign, e, isLabel, isAssign, -, -⟩ := h
  obtain @⟨ds, name, more, isName, repeated⟩ := isLabel
  cases repeated with
  | nil => exact ⟨name, assign, ts ++ comma, .assign, rfl, isAssign⟩
  | cons first rest =>
    cases first with
    | dash isDash isNext => exact ⟨name, _, _, .minus, rfl, isDash⟩

/-- Declarations that are not at fault are properties. -/
theorem Grammar.repeated_isProperty_iff {config : Config} {ts : List Token} {ps : List Property} :
    Repeated IsDeclaration ts ps ∧ PropertyList.fault? config ps = none ↔
      Repeated IsProperty ts ps ∧ (∀ p ∈ ps, p.key ≠ config.reservedLabel) ∧
        (config.duplicateLabels = .error → (ps.map Property.key).Nodup) := by
  rw [PropertyList.fault?_eq_none_iff]
  constructor
  · rintro ⟨declared, good, unique⟩
    have properties := declared.imp fun p hp h => isProperty_iff.2 ⟨h, (good p hp).2⟩
    exact ⟨properties, fun p hp => (good p hp).1, unique⟩
  · rintro ⟨properties, notReserved, unique⟩
    have plain := properties.forall_mem fun h => (isProperty_iff.1 h).2
    exact ⟨properties.imp fun p _ h => (isProperty_iff.1 h).1,
      fun p hp => ⟨notReserved p hp, plain p hp⟩, unique⟩

theorem PropertyForm.ahead?_cons {config : Config} {t : Token} {ts : List Token}
    (h : t.isIdentifier = true) :
    ahead? config (t :: ts) =
      some (if t.lexeme = config.delegateKeyword then .delegate else .list) := by
  simp [ahead?, identifier?, h]

namespace Parser

variable {config : Config} {span : Source.Span} {s s' : TokenStream} {ts : List Token}

theorem propertyList_sound {l : PropertyList} (h : (propertyList config).run s = .ok l s') :
    ∃ ts declared, Repeated IsDeclaration ts declared ∧
      PropertyList.fault? config declared = none ∧
      l = kept s.location declared ∧ s.ahead = ts ++ s'.ahead := by
  rw [propertyList, run_bind_of_ok run_location] at h
  obtain ⟨declared, s₁, hdeclared, h⟩ := run_bind_eq_ok.1 h
  cases fault : PropertyList.fault? config declared with
  | some e =>
    simp only [fault] at h
    cases h
  | none =>
    simp only [fault] at h
    cases h
    obtain ⟨-, ts, repeated, rfl⟩ := many_sound nextProperty_sound nextProperty_stays
      (fun h => by cases h; simp) hdeclared
    exact ⟨ts, declared, repeated, fault, rfl, rfl⟩

theorem run_many_nextProperty {declared : List Property}
    (h : Repeated IsDeclaration ts declared) (empty : s.ahead = []) :
    EStateM.run (many nextProperty) (s.before ts) = .ok declared s := by
  have ends : EndsDeclaration s.ahead := by rw [empty]; rfl
  have stop : nextProperty.run s = .ok none s := by
    rw [nextProperty, run_bind_of_ok run_ahead, empty]
    rfl
  exact many_complete h nextProperty_complete (fun h => by cases h; simp)
    (fun h => by cases h with | mk isLabel => cases isLabel with | mk isName => exact isName)
    ends stop

/-- Tokens are declarations in one way only. -/
theorem declarations_unique {ps qs : List Property} (hp : Repeated IsDeclaration ts ps)
    (hq : Repeated IsDeclaration ts qs) : ps = qs := by
  let rest : TokenStream := ⟨[], .start "", [], []⟩
  have run := run_many_nextProperty hp (show rest.ahead = [] from rfl)
  rw [run_many_nextProperty hq rfl] at run
  cases run
  rfl

/-- Declarations with nothing behind them are all read before their labels are looked at. -/
theorem run_propertyList (config : Config) {declared : List Property}
    (h : Repeated IsDeclaration ts declared) (empty : s.ahead = []) :
    ∃ s', ((propertyList config).run (s.before ts) =
      match PropertyList.fault? config declared with
      | some e => .error (.rejected e) s'
      | none => .ok (kept (s.before ts).location declared) s') ∧ s'.ahead = [] := by
  rw [propertyList, run_bind_of_ok run_location, run_bind_of_ok (run_many_nextProperty h empty)]
  cases PropertyList.fault? config declared with
  | some e => exact ⟨s, rfl, empty⟩
  | none => exact ⟨_, rfl, empty⟩

/-- Of the form `keyword name [,]`. -/
theorem delegate_sound {d : Delegate} (h : (delegate config).run s = .ok d s') :
    ∃ ts, IsProperties config ts (some (.delegate d)) ∧ s.ahead = ts ++ s'.ahead := by
  obtain ⟨keyword, s₁, hkeyword, h⟩ := run_bind_eq_ok.1 h
  split at h
  case isTrue => cases h
  case isFalse same =>
    obtain ⟨name, s₂, hname, h⟩ := run_bind_eq_ok.1 h
    obtain ⟨found, s₃, hcomma, h⟩ := run_bind_eq_ok.1 h
    cases h
    obtain ⟨isKeyword, rfl⟩ := identifier_eq_ok_iff.1 hkeyword
    obtain ⟨isName, rfl⟩ := identifier_eq_ok_iff.1 hname
    obtain ⟨comma, isComma, rfl⟩ := accept_sound hcomma
    exact ⟨_, .delegate isKeyword (Decidable.not_not.1 same) isName isComma, rfl⟩

theorem delegate_complete {keyword name : Token} {comma : List Token}
    (isKeyword : keyword.isIdentifier = true) (same : keyword.lexeme = config.delegateKeyword)
    (isName : name.isIdentifier = true) (isComma : IsOptional .comma comma) (empty : s.ahead = []) :
    ∃ s', (delegate config).run (s.before (keyword :: name :: comma)) =
      .ok ⟨name, keyword.spanTo name⟩ s' ∧ s'.ahead = [] := by
  have ahead : s.before (keyword :: name :: comma) =
      ((s.before comma).before [name]).before [keyword] := by simp [TokenStream.before]
  rw [ahead, delegate, run_bind_of_ok (run_identifier isKeyword)]
  simp only [same, ne_eq, not_true_eq_false, if_false]
  rw [run_bind_of_ok (run_identifier isName),
    run_bind_of_ok (accept_complete isComma fun _ => by rw [empty]; rfl)]
  exact ⟨_, rfl, empty⟩

theorem propertySpec_sound {spec : Option PropertySpec}
    (h : (propertySpec config).run s = .ok spec s') (done : s'.ahead = []) :
    IsProperties config s.ahead spec := by
  rw [propertySpec, run_bind_of_ok run_ahead] at h
  split at h
  case h_1 =>
    cases h
    rw [done]
    exact .none
  case h_2 form =>
    obtain ⟨l, s₁, hl, h⟩ := run_bind_eq_ok.1 h
    cases h
    obtain ⟨ts, declared, repeated, valid, rfl, ahead⟩ := propertyList_sound hl
    obtain ⟨good, -⟩ := PropertyList.fault?_eq_none_iff.1 valid
    rw [done, List.append_nil] at ahead
    cases repeated with
    | nil =>
      rw [ahead] at form
      cases form
    | @cons us ts first more head tail =>
      obtain ⟨t, us, rfl, isName, start, key⟩ := head.exists_first
      have location : s.location = first.span.start := by
        rw [TokenStream.location, ahead, start]
        rfl
      have notKeyword : first.key ≠ config.delegateKeyword := by
        rw [key (good first List.mem_cons_self).2]
        intro same
        rw [ahead, List.cons_append, PropertyForm.ahead?_cons isName, if_pos same] at form
        cases form
      rw [ahead, location]
      obtain ⟨properties, notReserved, unique⟩ :=
        repeated_isProperty_iff.1 ⟨.cons head tail, valid⟩
      exact .list properties notKeyword notReserved unique
  case h_3 =>
    obtain ⟨d, s₁, hd, h⟩ := run_bind_eq_ok.1 h
    cases h
    obtain ⟨ts, isDelegate, ahead⟩ := delegate_sound hd
    rwa [ahead, done, List.append_nil]

theorem propertySpec_complete {spec : Option PropertySpec} (h : IsProperties config ts spec)
    (empty : s.ahead = []) :
    ∃ s', (propertySpec config).run (s.before ts) = .ok spec s' ∧ s'.ahead = [] := by
  rw [propertySpec, run_bind_of_ok run_ahead, TokenStream.ahead_before, empty, List.append_nil]
  cases h with
  | none => exact ⟨s, rfl, empty⟩
  | @delegate keyword name comma isKeyword same isName isComma =>
    obtain ⟨s', run, done⟩ := delegate_complete isKeyword same isName isComma empty
    rw [PropertyForm.ahead?_cons isKeyword, if_pos same]
    exact ⟨s', run_bind_of_ok run, done⟩
  | @list _ first more repeated notKeyword notReserved unique =>
    obtain ⟨declared, valid⟩ := repeated_isProperty_iff.2 ⟨repeated, notReserved, unique⟩
    have plain := repeated.forall_mem fun h => (isProperty_iff.1 h).2
    obtain ⟨s', run, done⟩ := run_propertyList config declared empty
    rw [valid] at run
    cases declared with
    | @cons us ts _ _ head tail =>
      obtain ⟨t, us, rfl, isName, start, key⟩ := head.exists_first
      rw [key (plain first List.mem_cons_self)] at notKeyword
      rw [List.cons_append, PropertyForm.ahead?_cons isName, if_neg notKeyword, start]
      exact ⟨s', run_bind_of_ok run, done⟩

/-- Properties start with a name. -/
theorem endsDeclaration_of_isProperties {spec : Option PropertySpec}
    (h : IsProperties config ts spec) : EndsDeclaration ts := by
  cases h with
  | none => rfl
  | delegate isKeyword => exact isKeyword
  | list repeated =>
    cases repeated with
    | cons first =>
      cases first with
      | mk isName => exact isName

/-- With a single colon behind it or without, a type path does not go on. -/
theorem doubleColon?_eq_none {colon : List Token} (h : IsOptional .colon colon)
    (follow : Lookahead.mark? .colon ts = none) : doubleColon? (colon ++ ts) = none := by
  cases h with
  | absent => exact doubleColon?_of_mark? follow
  | present is =>
    rw [doubleColon?, List.singleton_append, Lookahead.mark?, if_pos is, Option.bind_some]
    exact follow

theorem interior_sound {c : ComponentTag} (h : (interior config span).run s = .ok c s') :
    IsInterior config span s.ahead c := by
  obtain ⟨path, s₁, hpath, h⟩ := run_bind_eq_ok.1 h
  obtain ⟨found, s₂, hcolon, h⟩ := run_bind_eq_ok.1 h
  obtain ⟨spec, s₃, hspec, h⟩ := run_bind_eq_ok.1 h
  rw [run_bind_of_ok run_peek] at h
  split at h
  case h_1 => cases h
  case h_2 done =>
    cases h
    obtain ⟨ts, isPath, rfl⟩ := typePath_sound hpath
    obtain ⟨colon, isColon, rfl⟩ := accept_sound hcolon
    have isSpec := propertySpec_sound hspec (List.head?_eq_none_iff.1 done)
    rw [TokenStream.ahead_before, TokenStream.ahead_before, ← List.append_assoc]
    exact .mk isPath isColon isSpec

theorem interior_complete {c : ComponentTag} (h : IsInterior config span s.ahead c) :
    ∃ s', (interior config span).run s = .ok c s' := by
  generalize ahead : s.ahead = all at h
  obtain @⟨path, colon, ts, p, spec, isPath, isColon, isSpec⟩ := h
  let rest : TokenStream := { s with ahead := [] }
  have split : s = rest.before (path ++ colon ++ ts) :=
    TokenStream.eq_before (by rw [ahead, List.append_nil])
  -- Properties start with a name, so neither the path nor the colon takes a token of theirs.
  have ends : EndsDeclaration (rest.before ts).ahead := by
    simpa [rest] using endsDeclaration_of_isProperties isSpec
  obtain ⟨s', run, done⟩ := propertySpec_complete (s := rest) isSpec rfl
  have follow := doubleColon?_eq_none isColon (ends.mark? _)
  rw [split, TokenStream.before_append, TokenStream.before_append, interior,
    run_bind_of_ok (typePath_complete isPath follow),
    run_bind_of_ok (accept_complete isColon fun _ => ends.mark? _), run_bind_of_ok run,
    run_bind_of_ok run_peek, done]
  exact ⟨s', rfl⟩

/-- Where the type path of an interior ends is told by what can stand behind it. -/
theorem isProperties_of_isInterior {c : ComponentTag} {path colon : List Token} {p : TypePath}
    (h : IsInterior config span (path ++ colon ++ ts) c) (isPath : IsTypePath path p)
    (isColon : IsOptional .colon colon) (ends : EndsDeclaration ts) :
    c.typePath = p ∧ IsProperties config ts c.properties := by
  let rest : TokenStream := ⟨[], span.start, [], []⟩
  have ends : EndsDeclaration (rest.before ts).ahead := by
    rwa [TokenStream.ahead_before, List.append_nil]
  have whole : IsInterior config span (rest.before (path ++ colon ++ ts)).ahead c := by
    rwa [TokenStream.ahead_before, List.append_nil]
  obtain ⟨s', run⟩ := interior_complete whole
  rw [TokenStream.before_append, TokenStream.before_append, interior,
    run_bind_of_ok (typePath_complete isPath (doubleColon?_eq_none isColon (ends.mark? _))),
    run_bind_of_ok (accept_complete isColon fun _ => ends.mark? _)] at run
  obtain ⟨spec, s₁, hspec, run⟩ := run_bind_eq_ok.1 run
  rw [run_bind_of_ok run_peek] at run
  split at run
  case h_1 => cases run
  case h_2 done =>
    cases run
    refine ⟨rfl, ?_⟩
    simpa [rest] using propertySpec_sound hspec (List.head?_eq_none_iff.1 done)

theorem endsDeclaration_of_declarations {declared : List Property}
    (h : Repeated IsDeclaration ts declared) : EndsDeclaration ts := by
  cases h with
  | nil => rfl
  | cons first =>
    obtain ⟨t, us, rfl, isName, -⟩ := first.exists_first
    exact isName

/-- Declarations of which one is at fault are rejected for it, unless they look like a delegate. -/
theorem interior_of_fault? {path colon : List Token} {p : TypePath} {first : Property}
    {more : List Property} {e : ParseError} (ahead : s.ahead = path ++ colon ++ ts)
    (isPath : IsTypePath path p) (isColon : IsOptional .colon colon)
    (declarations : Repeated IsDeclaration ts (first :: more))
    (plain : first.label.isPlain = true) (notKeyword : first.key ≠ config.delegateKeyword)
    (fault : PropertyList.fault? config (first :: more) = some e) :
    ∃ s', (interior config span).run s = .error (.rejected e) s' := by
  let rest : TokenStream := { s with ahead := [] }
  have split : s = rest.before (path ++ colon ++ ts) :=
    TokenStream.eq_before (by rw [ahead, List.append_nil])
  have ends : EndsDeclaration (rest.before ts).ahead := by
    simpa [rest] using endsDeclaration_of_declarations declarations
  have form : PropertyForm.ahead? config (rest.before ts).ahead = some .list := by
    cases declarations with
    | cons isFirst _ =>
      obtain ⟨t, us, rfl, isName, -, key⟩ := isFirst.exists_first
      rw [key plain] at notKeyword
      rw [TokenStream.ahead_before, List.cons_append, List.cons_append,
        PropertyForm.ahead?_cons isName, if_neg notKeyword]
  obtain ⟨s', run, -⟩ := run_propertyList (s := rest) config declarations rfl
  rw [fault] at run
  have fails : (propertySpec config).run (rest.before ts) = .error (.rejected e) s' := by
    rw [propertySpec, run_bind_of_ok run_ahead, form]
    simp only [run_bind, run]
  rw [split, TokenStream.before_append, TokenStream.before_append, interior,
    run_bind_of_ok (typePath_complete isPath (doubleColon?_eq_none isColon (ends.mark? _))),
    run_bind_of_ok (accept_complete isColon fun _ => ends.mark? _), run_bind, fails]
  exact ⟨s', rfl⟩

/-- Whatever the labels of declarations are, behind a type path they are the properties of a tag or
the interior is none. -/
theorem eq_of_isInterior {c : ComponentTag} {path colon : List Token} {p : TypePath}
    {declared : List Property} (h : IsInterior config span (path ++ colon ++ ts) c)
    (isPath : IsTypePath path p) (isColon : IsOptional .colon colon)
    (declarations : Repeated IsDeclaration ts declared) :
    c.typePath = p ∧ (declared = [] ∧ c.properties = none ∨
      declared ≠ [] ∧ ∃ start, c.properties = some (.list (kept start declared))) := by
  obtain ⟨path, isSpec⟩ := isProperties_of_isInterior h isPath isColon
    (endsDeclaration_of_declarations declarations)
  refine ⟨path, ?_⟩
  generalize c.properties = spec at isSpec
  cases isSpec with
  | none => exact .inl ⟨declarations_unique declarations .nil, rfl⟩
  | delegate _ _ isName =>
    -- The second token of a delegate is a name, that of a declaration is a mark.
    generalize ahead : _ :: _ :: _ = us at declarations
    cases declarations with
    | nil => cases ahead
    | cons first =>
      obtain ⟨t, u, us, m, rfl, isMark⟩ := first.exists_second
      simp only [List.cons_append, List.cons.injEq] at ahead
      rw [← ahead.2.1, Token.isMark_of_isIdentifier isName m] at isMark
      cases isMark
  | list repeated =>
    obtain rfl := declarations_unique declarations
      (repeated.imp fun _ _ isProperty => (isProperty_iff.1 isProperty).1)
    exact .inr ⟨List.cons_ne_nil _ _, _, rfl⟩

/-- A stream is read as an interior exactly if all its tokens are one. -/
theorem interior_ok_iff {c : ComponentTag} :
    (∃ s', (interior config span).run s = .ok c s') ↔ IsInterior config span s.ahead c :=
  ⟨fun ⟨_, h⟩ => interior_sound h, interior_complete⟩

end Parser

end ComponentMarkup
