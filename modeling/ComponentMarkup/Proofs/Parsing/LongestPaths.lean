import ComponentMarkup.Proofs.Parsing.Classifying
import ComponentMarkup.Proofs.Parsing.PathTexts

/-!
# Longest paths

Lookahead takes the longest type path there is. A `::` without a name behind it is not a part of it,
nor is a third colon.

## Main definitions

* `Grammar.IsLongestPath` — the longest type path at the start of tokens, which is empty if there is
  none.

## Main statements

* `Lookahead.exists_longestPath` — what is looked up is the longest type path.
* `Cursor.classify?_longestPath` — cursors classify by it, except where there are no tokens at all.
-/

namespace ComponentMarkup

open Grammar Lookahead

namespace Grammar

/-- The longest of the type paths that the tokens start with, or no token if there is none. -/
structure IsLongestPath (ts path : List Token) : Prop where
  isPrefix : path <+: ts
  isPath : path = [] ∨ ∃ p, IsTypePath path p
  longest : ∀ us p, us <+: ts → IsTypePath us p → us.length ≤ path.length

end Grammar

namespace Lookahead

variable {ts us rest names colons : List Token} {first : Token} {leading : Bool}

/-! ## The names behind the first one -/

theorem pathTail_sound (ts : List Token) :
    ∃ us, Repeated IsTypeSegment us (pathTail ts).1 ∧ ts = us ++ (pathTail ts).2 := by
  fun_induction pathTail ts with
  | case1 a b name ts all names rest eq ih =>
    simp only [Bool.and_eq_true] at all
    rw [eq] at ih
    obtain ⟨us, repeated, split⟩ := ih
    exact ⟨[a, b, name] ++ us, .cons (.colons all.1.1 all.1.2 all.2) repeated, by simp [split]⟩
  | case2 => exact ⟨[], .nil, rfl⟩
  | case3 => exact ⟨[], .nil, rfl⟩

theorem length_pathTail_le (ts : List Token) : (pathTail ts).2.length ≤ ts.length := by
  obtain ⟨us, -, split⟩ := pathTail_sound ts
  have := congrArg List.length split
  simp only [List.length_append] at this
  omega

/-- Names behind `::` are taken, whatever follows. -/
theorem length_pathTail_append_le (h : Repeated IsTypeSegment us names) (rest : List Token) :
    (pathTail (us ++ rest)).2.length ≤ rest.length := by
  induction h with
  | nil => exact length_pathTail_le rest
  | @cons _ us _ _ segment _ ih =>
    cases segment with
    | colons a b name => simpa [pathTail, a, b, name] using ih

/-! ## Whole paths -/

/-- Tokens start with one first name at most. -/
theorem leading_unique {colons' : List Token} {first' : Token} {leading' : Bool} {ts' : List Token}
    (leads : IsLeading colons leading) (isFirst : first.isIdentifier = true)
    (leads' : IsLeading colons' leading') (isFirst' : first'.isIdentifier = true)
    (same : colons ++ first :: ts = colons' ++ first' :: ts') : colons = colons' ∧ ts = ts' := by
  have notColon {t : Token} (colon : t.isMark .colon = true) : t.isIdentifier ≠ true := by
    intro name
    rw [Token.isMark_of_isIdentifier name] at colon
    cases colon
  cases leads with
  | absent =>
    cases leads' with
    | absent => simpa using And.right (List.cons.inj same)
    | present a _ =>
      cases same
      exact absurd isFirst (notColon a)
  | present a b =>
    cases leads' with
    | absent =>
      cases same
      exact absurd isFirst' (notColon a)
    | present =>
      cases same
      exact ⟨rfl, rfl⟩

theorem exists_leading_of_typePath? {text : String} (h : typePath? ts = some text) :
    ∃ colons first rest leading, IsLeading colons leading ∧ first.isIdentifier = true ∧
      ts = colons ++ first :: rest := by
  unfold typePath? at h
  cases found : doubleColon? ts with
  | none =>
    obtain ⟨⟨first, rest⟩, name, -⟩ := Option.map_eq_some_iff.1 (found ▸ h)
    obtain ⟨rfl, isFirst⟩ := identifier?_eq_some_iff.1 name
    exact ⟨[], first, rest, false, .absent, isFirst, rfl⟩
  | some us =>
    obtain ⟨a, b, rfl, isA, isB⟩ := doubleColon?_eq_some_iff.1 found
    obtain ⟨⟨first, rest⟩, name, -⟩ := Option.map_eq_some_iff.1 (found ▸ h)
    obtain ⟨rfl, isFirst⟩ := identifier?_eq_some_iff.1 name
    exact ⟨[a, b], first, rest, true, .present isA isB, isFirst, rfl⟩

/-- What is looked up is the text of the longest path. -/
theorem exists_longestPath (spelled : MarksSpelled ts) :
    ∃ path, IsLongestPath ts path ∧
      (typePath? ts).getD "" = String.join (path.map Token.lexeme) := by
  by_cases start : ∃ colons first rest leading, IsLeading colons leading ∧
      first.isIdentifier = true ∧ ts = colons ++ first :: rest
  case pos =>
    obtain ⟨colons, first, rest, leading, leads, isFirst, rfl⟩ := start
    obtain ⟨us, repeated, split⟩ := pathTail_sound rest
    have isPath := IsTypePath.mk leads isFirst repeated
    have isPrefix : colons ++ first :: us <+: colons ++ first :: rest :=
      ⟨(pathTail rest).2, by simp [← split]⟩
    refine ⟨colons ++ first :: us, ⟨isPrefix, .inr ⟨_, isPath⟩, ?_⟩, ?_⟩
    · rintro vs p ⟨behind, same⟩ isOther
      obtain @⟨colons', vs, leading', first', names, leads', isFirst', repeated'⟩ := isOther
      rw [List.append_assoc, List.cons_append] at same
      obtain ⟨rfl, rfl⟩ := leading_unique leads' isFirst' leads isFirst same
      -- What is taken behind the first name leaves no more than the other path does.
      have fewer := length_pathTail_append_le repeated' behind
      have lengths := congrArg List.length split
      simp only [List.length_append, List.length_cons] at lengths ⊢
      omega
    · rw [typePath?_of_leading leads isFirst, Option.getD_some,
        ← isPath.text_eq_join (spelled.of_subset isPrefix.subset)]
      rfl
  case neg =>
    refine ⟨[], ⟨List.nil_prefix, .inl rfl, ?_⟩, ?_⟩
    · rintro us p ⟨behind, rfl⟩ ⟨leads, isFirst, -⟩
      exact absurd ⟨_, _, _, _, leads, isFirst, List.append_assoc ..⟩ start
    · cases found : typePath? ts with
      | none => rfl
      | some text => exact absurd (exists_leading_of_typePath? found) start

theorem componentName?_eq (ts : List Token) {text : String} (h : (typePath? ts).getD "" = text) :
    componentName? ts =
      if text ≠ "" ∧ Text.lowercase text.toList ≠ text.toList then some text else none := by
  unfold componentName? isComponentName
  subst h
  cases typePath? ts with
  | none => rfl
  | some text =>
    by_cases empty : text = ""
    · subst empty
      rfl
    · simp [empty, Option.filter_some]

end Lookahead

/-! ## Cursors -/

namespace Cursor

variable {k : Cursor}

/-- The place of a cursor that is not astray is told by some token, if there is one. -/
theorem isSome_location?_iff (place : k.isAstray = false) :
    k.location?.isSome = true ↔ k.tokens ≠ [] := by
  rw [location?, place, if_neg Bool.false_ne_true]
  split
  case h_1 t found =>
    refine iff_of_true rfl fun empty => ?_
    simp [laps, empty] at found
  case h_2 => simp

/-- What is classified at a place is classified by its tokens ahead. -/
theorem any_classify?_eq (place : k.isAstray = false) :
    k.classify?.any Classification.isComponent = (componentName? k.ahead).isSome := by
  cases ahead : k.ahead with
  | nil =>
    have none : componentName? [] = none := rfl
    cases location : k.location? <;>
      simp [classify?, location, ahead, none, Classification.isComponent]
  | cons t ts =>
    obtain ⟨l, location⟩ := Option.isSome_iff_exists.1
      ((isSome_location?_iff place).2 (index_of_ahead ahead).2.2)
    simp [classify?, location, ahead, Classification.isComponent]

/-- A cursor classifies by the longest type path ahead, and names a component exactly if the path
is not empty and not all in lowercase. Only where there are no tokens at all is nothing
classified. -/
theorem classify?_longestPath (place : k.isAstray = false) (spelled : MarksSpelled k.ahead) :
    ∃ path, IsLongestPath k.ahead path ∧
      let text := String.join (path.map Token.lexeme)
      componentName? k.ahead =
        (if text ≠ "" ∧ Text.lowercase text.toList ≠ text.toList then some text else none) ∧
      (k.classify?.isSome = true ↔ k.tokens ≠ []) ∧
      (k.classify?.any Classification.isComponent = true ↔
        text ≠ "" ∧ Text.lowercase text.toList ≠ text.toList) := by
  obtain ⟨path, longest, same⟩ := exists_longestPath spelled
  have name := componentName?_eq k.ahead same
  refine ⟨path, longest, name, ?_, ?_⟩
  · rw [classify?, Option.isSome_map, isSome_location?_iff place]
  · rw [any_classify?_eq place, name]
    split <;> simp_all

/-- A path with a `::` in front, and one colon more behind it than another `::` has. The place is
behind a `<`, and the bound in front of a name that the path would go on with. -/
theorem classify?_longestPath_dangling :
    let k : Cursor := {
      tokens := [⟨.mark .lessThan, "<", ⟨"<markup>", 1, 1, 0⟩⟩,
        ⟨.mark .colon, ":", ⟨"<markup>", 1, 2, 1⟩⟩, ⟨.mark .colon, ":", ⟨"<markup>", 1, 3, 2⟩⟩,
        ⟨.identifier, "ui", ⟨"<markup>", 1, 4, 3⟩⟩, ⟨.mark .colon, ":", ⟨"<markup>", 1, 6, 5⟩⟩,
        ⟨.mark .colon, ":", ⟨"<markup>", 1, 7, 6⟩⟩, ⟨.identifier, "Card", ⟨"<markup>", 1, 8, 7⟩⟩,
        ⟨.mark .colon, ":", ⟨"<markup>", 1, 12, 11⟩⟩, ⟨.mark .colon, ":", ⟨"<markup>", 1, 13, 12⟩⟩,
        ⟨.identifier, "Row", ⟨"<markup>", 1, 14, 13⟩⟩]
      index := 1
      stop := 9
      stop_le := by decide }
    k.isAstray = false ∧ MarksSpelled k.ahead ∧
      ∃ path, IsLongestPath k.ahead path ∧ String.join (path.map Token.lexeme) = "::ui::Card" ∧
        k.classify?.any Classification.isComponent = true := by
  intro k
  have place : k.isAstray = false := by decide
  have spelled : MarksSpelled k.ahead := by decide +kernel
  obtain ⟨path, longest, name, -, component⟩ := classify?_longestPath place spelled
  have found : componentName? k.ahead = some "::ui::Card" := by decide +kernel
  rw [found] at name
  obtain ⟨named, text⟩ := Option.ite_none_right_eq_some.1 name.symm
  exact ⟨place, spelled, path, longest, Option.some_inj.1 text, component.2 named⟩

/-- At a cursor over no tokens, whose longest path is empty, nothing is classified. A cursor that is
to be at a `<` is told there that it is at none. -/
theorem classify?_ofTokens_nil :
    let k := ofTokens []
    k.isAstray = false ∧ IsLongestPath k.ahead [] ∧ componentName? k.ahead = none ∧
      k.mark? (some "<") = none ∧ k.classify? = none := by
  refine ⟨by decide, ⟨List.nil_prefix, .inl rfl, ?_⟩, by decide, by decide, by decide⟩
  intro us p isPrefix isPath
  obtain rfl := List.prefix_nil.1 isPrefix
  exact Nat.le_refl _

end Cursor

end ComponentMarkup
