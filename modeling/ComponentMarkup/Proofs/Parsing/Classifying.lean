import ComponentMarkup.Proofs.Parsing.Interiors
import ComponentMarkup.Proofs.Parsing.Suffixes
import ComponentMarkup.Tag.Classification

/-!
# Classified tags

A tag is classified by the longest type path behind its `<`. That path is looked for among all
tokens ahead, while the parser reads the one at the start of the interior. Where a tag is read, the
two are the same.

## Main statements

* `Lookahead.typePath?_append` — a type path that does not go on is the longest one.
* `Cursor.classifyTag?_of_ahead` — a cursor is classified by the tokens ahead of it.
* `Parser.classifyTag?_of_component` — how a tag that is read is classified.
-/

namespace ComponentMarkup

open Grammar Lookahead

namespace Lookahead

variable {ts rest names : List Token}

theorem pathTail_append (h : Repeated IsTypeSegment ts names) (follow : doubleColon? rest = none) :
    pathTail (ts ++ rest) = (names, rest) := by
  induction h with
  | nil =>
    rw [List.nil_append]
    fun_cases pathTail rest with
    | case1 a b name us all names' rest' eq =>
      simp only [Bool.and_eq_true] at all
      have found : doubleColon? (a :: b :: name :: us) = some (name :: us) :=
        doubleColon?_eq_some_iff.2 ⟨a, b, rfl, all.1.1, all.1.2⟩
      cases follow.symm.trans found
    | case2 => rfl
    | case3 => rfl
  | @cons _ us _ _ first _ ih =>
    cases first with
    | colons a b name => simp [pathTail, a, b, name, ih]

theorem typePath?_of_leading {colons : List Token} {leading : Bool} {first : Token}
    (leads : IsLeading colons leading) (isFirst : first.isIdentifier = true) (ts : List Token) :
    typePath? (colons ++ first :: ts) = some (spelling leading (first :: (pathTail ts).1)) := by
  cases leads with
  | absent =>
    have none : doubleColon? (first :: ts) = none :=
      doubleColon?_of_mark? (mark?_cons_of_isIdentifier isFirst)
    simp [typePath?, none, identifier?, isFirst]
  | @present a b isA isB =>
    have some : doubleColon? (a :: b :: first :: ts) = some (first :: ts) :=
      doubleColon?_eq_some_iff.2 ⟨a, b, rfl, isA, isB⟩
    simp [typePath?, some, identifier?, isFirst]

theorem typePath?_append {p : TypePath} (h : IsTypePath ts p) (follow : doubleColon? rest = none) :
    typePath? (ts ++ rest) = some p.text := by
  obtain ⟨leads, isFirst, repeated⟩ := h
  rw [List.append_assoc, List.cons_append, typePath?_of_leading leads isFirst,
    pathTail_append repeated follow]
  rfl

end Lookahead

/-! ## Cursors at a tag -/

namespace Cursor

variable {k : Cursor} {t : Token} {ts : List Token}

/-- A cursor with tokens ahead is at one of the places of a token, and not at its bound. -/
theorem index_of_ahead (h : k.ahead = t :: ts) :
    -(k.tokens.length : Int) ≤ k.index ∧ k.index < k.stop ∧ k.tokens ≠ [] := by
  refine ⟨?_, ?_, ?_⟩
  · by_cases astray : k.isAstray = true
    · simp [ahead, astray] at h
    · simpa [isAstray] using astray
  · by_cases atStop : k.atStop = true
    · rw [ahead_eq_nil_of_atStop atStop] at h
      cases h
    · simpa [Cursor.atStop] using atStop
  · intro empty
    unfold ahead at h
    split at h
    · cases h
    · simp [laps, empty] at h

theorem ahead_advance (h : k.ahead = t :: ts) : (k.advance 1).ahead = ts := by
  obtain ⟨low, high, -⟩ := index_of_ahead h
  have next : min (k.index + 1) k.stop = k.index + 1 := by omega
  have rank : k.rank (k.index + 1) = k.rank k.index + 1 := by
    simp only [Cursor.rank]
    omega
  have here : k.isAstray = false := by simpa [isAstray] using low
  have there : (k.advance 1).isAstray = false := by
    simp only [isAstray, advance, next, decide_eq_false_iff_not]
    omega
  have tail := congrArg List.tail h
  rw [ahead, here, if_neg Bool.false_ne_true, List.tail_drop, List.tail_cons, ← rank] at tail
  rw [ahead, there, if_neg Bool.false_ne_true, ← tail]
  simp only [advance, next]
  rfl

theorem isSome_location? (h : k.ahead = t :: ts) : (k.advance 1).location?.isSome = true := by
  obtain ⟨low, high, some⟩ := index_of_ahead h
  have there : (k.advance 1).isAstray = false := by
    simp only [isAstray, advance]
    grind
  rw [location?, there, if_neg Bool.false_ne_true]
  split
  case h_1 => rfl
  case h_2 => simpa [advance] using some

/-- Cursors classify a tag as streams do, by the tokens ahead. -/
theorem classifyTag?_of_ahead {s : TokenStream} (h : k.ahead = s.ahead) :
    k.classifyTag?.map Classification.component? =
      s.classifyTag?.map Classification.component? := by
  cases ahead : s.ahead with
  | nil => simp [classifyTag?, TokenStream.classifyTag?, h, ahead, Lookahead.mark?]
  | cons t ts =>
    rw [ahead] at h
    have step : k.before ts = k.advance 1 := by
      rw [before, h, List.length_cons]
      congr 1
      omega
    obtain ⟨l, hl⟩ := Option.isSome_iff_exists.1 (isSome_location? h)
    simp only [classifyTag?, TokenStream.classifyTag?, h, ahead, Lookahead.mark?]
    split
    case isTrue =>
      simp [step, classify?, hl, ahead_advance h, TokenStream.classify]
    case isFalse => rfl

end Cursor

/-! ## Tags that are read -/

/-- Behind the type path of a tag comes no `::`, whether a colon is written there or not. -/
theorem Parser.doubleColon?_of_isProperties {config : Config} {spec : Option PropertySpec}
    {slash : Token} {colon ts rest : List Token} (h : IsProperties config ts spec)
    (isColon : IsOptional .colon colon) (isSlash : slash.isMark .slash = true) :
    doubleColon? (colon ++ (ts ++ slash :: rest)) = none := by
  refine doubleColon?_eq_none isColon ?_
  have ends := endsDeclaration_of_isProperties h
  cases ts with
  | nil => exact mark?_cons_of_isMark isSlash nofun
  | cons t ts => exact mark?_cons_of_isIdentifier ends

theorem Grammar.IsInterior.typePath?_eq {config : Config} {span : Source.Span} {c : ComponentTag}
    {slash : Token} {inside rest : List Token} (h : IsInterior config span inside c)
    (isSlash : slash.isMark .slash = true) :
    typePath? (inside ++ slash :: rest) = some c.typePath.text := by
  cases h with
  | @mk path colon ts p spec isPath isColon isSpec =>
    have split : path ++ colon ++ ts ++ slash :: rest =
        path ++ (colon ++ (ts ++ slash :: rest)) := by simp
    rw [split]
    exact typePath?_append isPath (Parser.doubleColon?_of_isProperties isSpec isColon isSlash)

/-- A tag that is read is classified as a component exactly if its type path is not all in
lowercase, and then as that component. Cursors in the place of the stream classify it the same. -/
theorem Parser.classifyTag?_of_component {config : Config} {s s' : TokenStream} {c : ComponentTag}
    {warnings : List Warning} (h : (component config).run s = .ok (c, warnings) s') :
    ∃ opener rest, s.ahead = opener :: rest ∧ opener.isMark .lessThan = true ∧
      (s.classifyTag?.any Classification.isComponent = true ↔
        Text.lowercase c.typePath.text.toList ≠ c.typePath.text.toList) ∧
      (s.classifyTag?.any Classification.isComponent = true →
        componentName? rest = some c.typePath.text) ∧
      ∀ k : Cursor, k.ahead = s.ahead →
        k.classifyTag?.map Classification.component? =
          s.classifyTag?.map Classification.component? := by
  obtain ⟨opener, slash, closer, inside, inner, isOpener, isSlash, -, ahead, run⟩ :=
    component_sound h
  have longest : typePath? (inside ++ slash :: closer :: s'.ahead) = some c.typePath.text :=
    (interior_sound run).typePath?_eq isSlash
  have name : componentName? (inside ++ slash :: closer :: s'.ahead) =
      if isComponentName c.typePath.text then some c.typePath.text else none := by
    rw [componentName?, longest]
    rfl
  have classified : s.classifyTag?.any Classification.isComponent =
      isComponentName c.typePath.text := by
    rw [TokenStream.classifyTag?, ahead, Lookahead.mark?, if_pos isOpener]
    simp only [Option.map_some, Option.any_some, TokenStream.classify, Classification.isComponent,
      name]
    cases isComponentName c.typePath.text <;> rfl
  refine ⟨opener, _, ahead, isOpener, ?_, fun isComponent => ?_, fun k => k.classifyTag?_of_ahead⟩
  · rw [classified]
    simp [isComponentName]
  · rw [classified] at isComponent
    rw [name, if_pos isComponent]

/-- A qualified path with a `::` in front and a colon behind: the colon is not taken for the start
of one more `::`. -/
theorem Parser.classifyTag?_of_component_qualified :
    let s : TokenStream := {
      ahead := [⟨.mark .lessThan, "<", ⟨"<markup>", 1, 1, 0⟩⟩,
        ⟨.mark .colon, ":", ⟨"<markup>", 1, 2, 1⟩⟩, ⟨.mark .colon, ":", ⟨"<markup>", 1, 3, 2⟩⟩,
        ⟨.identifier, "ui", ⟨"<markup>", 1, 4, 3⟩⟩, ⟨.mark .colon, ":", ⟨"<markup>", 1, 6, 5⟩⟩,
        ⟨.mark .colon, ":", ⟨"<markup>", 1, 7, 6⟩⟩, ⟨.identifier, "Card", ⟨"<markup>", 1, 8, 7⟩⟩,
        ⟨.mark .colon, ":", ⟨"<markup>", 1, 13, 12⟩⟩, ⟨.mark .slash, "/", ⟨"<markup>", 1, 15, 14⟩⟩,
        ⟨.mark .greaterThan, ">", ⟨"<markup>", 1, 16, 15⟩⟩]
      stop := ⟨"<markup>", 1, 17, 16⟩ }
    ∃ c warnings s', (component .standard).run s = .ok (c, warnings) s' ∧
      c.typePath.text = "::ui::Card" ∧
      ∃ opener rest, s.ahead = opener :: rest ∧ opener.isMark .lessThan = true ∧
        (s.classifyTag?.any Classification.isComponent = true →
          componentName? rest = some c.typePath.text) := by
  intro s
  have read : ((component .standard).run' s).map (·.1.typePath.text) = some "::ui::Card" := by
    decide +kernel
  delta EStateM.run' at read
  cases run : (component .standard).run s with
  | error e s' =>
    rw [run] at read
    cases read
  | ok result s' =>
    obtain ⟨c, warnings⟩ := result
    rw [run] at read
    obtain ⟨opener, rest, ahead, isOpener, -, named, -⟩ := classifyTag?_of_component run
    exact ⟨c, warnings, s', rfl, Option.some_inj.1 read, opener, rest, ahead, isOpener, named⟩

end ComponentMarkup
