import ComponentMarkup.Compilation
import ComponentMarkup.Proofs.Layout.Declarations
import ComponentMarkup.Proofs.Parsing.Classifying

/-!
# Tags with another layout

Whether a tag is read, whether it is a component, and what it is, does not depend on its layout.

## Main definitions

* `ComponentTag.Alike` — tags that are the same but for the places.

## Main statements

* `Parser.interior_alike`, `Parser.component_alike` — reading a tag.
* `Stage.tag_alike` — reading a whole source.
* `TokenStream.isComponent_eq` — how a tag is classified.
-/

namespace ComponentMarkup

open Source (Location Span)

/-- The same tag in another place. -/
structure ComponentTag.Alike (c c' : ComponentTag) : Prop where
  path : c'.typePath.text = c.typePath.text
  properties : Option.Rel PropertySpec.Alike c.properties c'.properties

theorem Failure.Alike.atSlash {e e' : Failure} (h : e.Alike e') (slash slash' : Token) :
    (e.atSlash slash).Alike (e'.atSlash slash') := by
  cases h with
  | rejected alike =>
    simp only [Failure.atSlash, alike.kind]
    split
    · exact .rejected ⟨alike.kind, alike.code, alike.message⟩
    · exact .rejected alike
  | nothingToSkip => exact .nothingToSkip
  | strayCloser found => exact .strayCloser found

namespace Parser

variable {config : Config} {s s' : TokenStream}

theorem interior_alike (span span' : Span) (h : s.Respaced s') :
    Alike ComponentTag.Alike ((interior config span).run s) ((interior config span').run s') := by
  refine (typePath_alike h).bind fun p p' _ _ _ _ path h => ?_
  refine (accept_alike (.mark .colon) h).bind fun _ _ _ _ _ _ _ h => ?_
  refine (propertySpec_alike h).bind fun spec spec' _ _ _ _ properties h => ?_
  rw [run_bind_of_ok run_peek, run_bind_of_ok run_peek]
  rcases h.ahead.cases with ⟨ahead, ahead'⟩ | ⟨t, ts, u, us, ahead, ahead', first, rest⟩
  · rw [ahead, ahead']
    exact .ok ⟨path, properties⟩ h
  · rw [ahead, ahead']
    exact .rejected (ParseError.trailingToken_alike first)

/-- What is read apart: a failure on both sides, or values and warnings that are the same. -/
theorem within_alike {α : Type} {Q : α → α → Prop} {p p' : Parser α} {ts us : List Token}
    (stop stop' : Location)
    (inside : Alike Q (p.run ⟨ts, stop, [], []⟩) (p'.run ⟨us, stop', [], []⟩))
    (h : s.Respaced s') :
    Alike (fun r r' => ExceptAlike Failure.Alike Q r.1 r'.1 ∧
        (r.1.isOk = true → messages r'.2 = messages r.2))
      ((within ts stop p).run s) ((within us stop' p').run s') := by
  unfold within
  generalize p.run ⟨ts, stop, [], []⟩ = r, p'.run ⟨us, stop', [], []⟩ = r' at inside ⊢
  cases inside with
  | ok related same => exact .ok ⟨.ok related, fun _ => same.warnings⟩ ⟨h.ahead, h.warnings⟩
  | error fails => exact .ok ⟨.error fails, nofun⟩ ⟨h.ahead, h.warnings⟩

theorem component_alike (h : s.Respaced s') :
    Alike (fun r r' => r.1.Alike r'.1 ∧ messages r'.2 = messages r.2) ((component config).run s)
      ((component config).run s') := by
  refine (consume_alike (.mark .lessThan) _ h).bind fun opener opener' _ _ _ _ _ h => ?_
  refine (suffix_alike h).bind fun x x' s₁ s₁' _ _ found h₁ => ?_
  obtain ⟨alike, interiors⟩ := found
  obtain ⟨inside, slash, closer⟩ := x
  obtain ⟨inside', slash', closer'⟩ := x'
  obtain ⟨-, slashes, -⟩ := alike
  cases slashes with
  | none => exact .rejected ⟨rfl, rfl, rfl⟩
  | @some slash slash' =>
    have interior : Alike ComponentTag.Alike
        ((interior config (opener.spanTo closer)).run ⟨inside, slash.start, [], []⟩)
        ((interior config (opener'.spanTo closer')).run ⟨inside', slash'.start, [], []⟩) :=
      interior_alike _ _ ⟨interiors, rfl⟩
    refine (within_alike _ _ interior h₁).bind fun r r' s₂ s₂' _ _ related h₂ => ?_
    obtain ⟨result, warnings⟩ := r
    obtain ⟨result', warnings'⟩ := r'
    obtain ⟨results, sameWarnings⟩ := related
    cases results with
    | error fails => exact .error (fails.atSlash slash slash')
    | ok tags =>
      have same : messages warnings' = messages warnings := sameWarnings rfl
      have all : messages (s₂'.warnings ++ warnings') = messages (s₂.warnings ++ warnings) := by
        rw [messages_append, messages_append, h₂.warnings, same]
      exact .ok ⟨tags, same⟩ ⟨h₂.ahead, all⟩

end Parser

theorem Stage.tag_alike {config : Config} {s s' : TokenStream} (h : s.Respaced s') :
    Parser.Alike (fun r r' => r.1.Alike r'.1 ∧ messages r'.2 = messages r.2)
      ((tag config).run s) ((tag config).run s') := by
  refine (Parser.component_alike h).bind fun r r' s₁ s₁' _ _ related h => ?_
  rw [Parser.run_bind_of_ok Parser.run_peek, Parser.run_bind_of_ok Parser.run_peek]
  rcases h.ahead.cases with ⟨ahead, ahead'⟩ | ⟨t, ts, u, us, ahead, ahead', first, rest⟩
  · rw [ahead, ahead']
    exact .ok related h
  · rw [ahead, ahead']
    exact .rejected (ParseError.trailingToken_alike first)

/-! ## Classification -/

namespace Lookahead

variable {ts us : List Token}

theorem pathTail_alike (h : Respaced ts us) : Relaid (pathTail ts).1 (pathTail us).1 := by
  fun_induction pathTail ts generalizing us with
  | case1 a b name ts all names rest eq ih =>
    obtain ⟨a', vs, rfl, first, more⟩ := h.cons_inv
    obtain ⟨b', vs, rfl, second, more⟩ := more.cons_inv
    obtain ⟨name', us, rfl, third, tail⟩ := more.cons_inv
    have isNames := ih tail
    rw [eq] at isNames
    rw [← first.isMark, ← second.isMark, ← third.isIdentifier] at all
    rw [pathTail, if_pos all]
    exact .cons third isNames
  | case2 a b name ts notAll =>
    obtain ⟨a', vs, rfl, first, more⟩ := h.cons_inv
    obtain ⟨b', vs, rfl, second, more⟩ := more.cons_inv
    obtain ⟨name', us, rfl, third, -⟩ := more.cons_inv
    rw [← first.isMark, ← second.isMark, ← third.isIdentifier] at notAll
    rw [pathTail, if_neg notAll]
    exact .nil
  | case3 ts few =>
    have fewer : pathTail us = ([], us) := by
      rcases h.cases with ⟨rfl, rfl⟩ | ⟨t, ts, u, us, rfl, rfl, -, more⟩
      · rfl
      rcases more.cases with ⟨rfl, rfl⟩ | ⟨t', ts, u', us, rfl, rfl, -, more⟩
      · rfl
      rcases more.cases with ⟨rfl, rfl⟩ | ⟨t'', ts, u'', us, rfl, rfl, -, -⟩
      · rfl
      · exact absurd rfl (few t t' t'' ts)
    rw [fewer]
    exact .nil

theorem typePath?_eq (h : Respaced ts us) : typePath? us = typePath? ts := by
  have name : ∀ {vs ws : List Token} (leading : Bool), Respaced vs ws →
      (identifier? ws).map (fun r => spelling leading (r.1 :: (pathTail r.2).1)) =
        (identifier? vs).map fun r => spelling leading (r.1 :: (pathTail r.2).1) := by
    intro vs ws leading same
    have first := identifier?_alike same
    generalize identifier? vs = found, identifier? ws = found' at first ⊢
    cases first with
    | none => rfl
    | some related =>
      simp only [Option.map_some, spelling, List.map_cons, related.1.lexeme,
        Relaid.map_lexeme (pathTail_alike related.2)]
  have colons := doubleColon?_alike h
  unfold typePath?
  generalize doubleColon? ts = found, doubleColon? us = found' at colons ⊢
  cases colons with
  | none => exact name false h
  | some rest => exact name true rest

end Lookahead

/-- The layout does not tell whether a tag is a component. -/
theorem TokenStream.isComponent_eq {s s' : TokenStream} (h : s.Respaced s') :
    s'.classifyTag?.any Classification.isComponent =
      s.classifyTag?.any Classification.isComponent := by
  have opener := Lookahead.mark?_alike .lessThan h.ahead
  unfold classifyTag?
  generalize Lookahead.mark? .lessThan s.ahead = found, Lookahead.mark? .lessThan s'.ahead = found'
    at opener ⊢
  cases opener with
  | none => rfl
  | some rest =>
    simp only [Option.map_some, Option.any_some, classify, Classification.isComponent,
      Lookahead.componentName?, Lookahead.typePath?_eq rest]

end ComponentMarkup
