import ComponentMarkup.Proofs.Parsing.Failures
import ComponentMarkup.Proofs.Parsing.TagEnds

/-!
# Brackets in a tag

The search for the end of a tag passes over whole groups, and the interior that it finds is read
token by token. Whenever that comes to a bracket which opens a group, the group is one of those that
were passed over. So brackets at fault are told by the search, and by nothing else.

## Main definitions

* `Grouped` — tokens in which every bracket that opens a group has its counterpart.
* `Parser.inGroups` — the contract to stay outside of the groups.
* `Parser.MeetsGroup` — where reading an interior comes to a group.

## Main statements

* `IsInside.grouped` — the interior of a tag.
* `Parser.group_of_meetsGroup` — a group that reading comes to is there.
* `Parser.component_delimiters` — where the faults of brackets in a tag come from.
-/

namespace ComponentMarkup

open Source (Location Span)

/-- Every bracket that opens a group is closed by its counterpart. Other tokens stand where they
like, closing brackets included. -/
inductive Grouped : List Token → Prop where
  | nil : Grouped []
  | other {t : Token} {ts : List Token} : t.opens? = none → Grouped ts → Grouped (t :: ts)
  | group {opener closer : Token} {m : Mark} {inside ts : List Token} :
      opener.opens? = some m → Balanced inside → closer.closes? = some m → Grouped ts →
      Grouped (opener :: inside ++ closer :: ts)

namespace Grouped

variable {t : Token} {ts us : List Token}

theorem append (h : Grouped ts) (h' : Grouped us) : Grouped (ts ++ us) := by
  induction h with
  | nil => exact h'
  | other opens _ ih => exact .other opens ih
  | group opens balanced closes _ ih =>
    simp only [List.cons_append, List.append_assoc]
    exact .group opens balanced closes ih

theorem behind (h : Grouped (t :: ts)) (opens : t.opens? = none) : Grouped ts := by
  cases h with
  | other _ rest => exact rest
  | group opens' => cases opens.symm.trans opens'

/-- The first group is read, and behind it the tokens go on in groups. -/
theorem exists_read (h : Grouped ts) (opens : ts.head?.any (·.opens?.isSome) = true) :
    ∃ g rest, Group.read ts = .ok (g, rest) ∧ Grouped rest := by
  cases h with
  | nil => cases opens
  | other none => simp [none] at opens
  | @group opener closer m inside rest isOpener balanced closes grouped =>
    exact ⟨⟨opener, inside, closer⟩, rest, Group.read_eq_ok_iff.2
      ⟨by simp [Group.tokens], balanced, m, isOpener, closes⟩, grouped⟩

end Grouped

theorem IsInside.grouped {depth : Nat} {ts rest : List Token} (h : IsInside depth ts rest) :
    Grouped ts := by
  induction h with
  | nil => exact .nil
  | group opens balanced closes _ ih => exact .group opens balanced closes ih
  | arrow dash head _ ih =>
    exact .other (Token.opens?_of_isMark dash) (.other (Token.opens?_of_isMark head) ih)
  | pair opens _ closes _ ihInside ih =>
    refine .other (Token.opens?_of_isMark opens) (ihInside.append ?_)
    exact .other (Token.opens?_of_isMark closes) ih
  | single opens _ _ _ _ _ ih => exact .other opens ih

theorem IsSuffix.grouped {ts rest : List Token} {x : Suffix} (h : IsSuffix ts x rest) :
    Grouped x.interior := by
  cases h with
  | opening inside => exact inside.grouped
  | selfClosing inside => exact inside.grouped

namespace Parser

variable {config : Config} {s s' s'' : TokenStream}

theorem exists_group_of_grouped (grouped : Grouped s.ahead)
    (opens : s.ahead.head?.any (·.opens?.isSome) = true) :
    ∃ g s', group.run s = .ok g s' ∧ s.ahead = g.tokens ++ s'.ahead ∧ Grouped s'.ahead := by
  obtain ⟨g, rest, read, left⟩ := grouped.exists_read opens
  obtain ⟨ahead, isGroup⟩ := Group.read_eq_ok_iff.1 read
  exact ⟨g, _, group_eq_ok_iff.2 ⟨TokenStream.eq_before ahead, isGroup⟩, ahead, left⟩

/-- What is left of the tokens `all` goes on in groups. No fault of brackets comes up, but errors
about the tokens or their end may. -/
def inGroups (all : List Token) : Contract where
  ahead ts := Grouped ts ∧ ts <:+ all
  failure e := ¬ e.IsDelimiter ∧ ∃ d, e = .rejected d ∧ d.IsAbout all
  behind opens h := ⟨h.1.behind opens, (List.suffix_cons _ _).trans h.2⟩
  rejects h about other := ⟨other, _, rfl, about.of_subset h.2.subset⟩
  group h opens run := by
    obtain ⟨g, s', done, ahead, left⟩ := exists_group_of_grouped h.1 opens
    cases done.symm.trans run
    exact ⟨left, (ahead ▸ List.suffix_append _ _).trans h.2⟩
  noGroup h opens run := by
    obtain ⟨g, s', done, -⟩ := exists_group_of_grouped h.1 opens
    cases done.symm.trans run

/-! ## Groups that reading comes to -/

/-- Declarations one behind the other have been read. -/
inductive Declares : TokenStream → TokenStream → Prop
  | nil {s : TokenStream} : Declares s s
  | cons {s s' s'' : TokenStream} {p : Property} :
      nextProperty.run s = .ok (some p) s' → Declares s' s'' → Declares s s''

/-- Reading a value comes to a group: to a block at once, to arguments behind the path in front. -/
inductive ValueMeetsGroup : TokenStream → TokenStream → Prop
  | block {s : TokenStream} :
      s.ahead.head?.any (·.isMark .leftBrace) = true → ValueMeetsGroup s s
  | call {s s' : TokenStream} {t : Token} {p : ValuePath} :
      s.ahead.head? = some t → (t.isIdentifier || t.isMark .colon) = true →
      (valuePath t).run s = .ok p s' → s'.ahead.head?.any (·.isMark .leftParen) = true →
      ValueMeetsGroup s s'

/-- Reading an interior comes to a group: behind the type path, a colon or none, declarations, and
the label and the `=` of one more. -/
inductive MeetsGroup (config : Config) : TokenStream → TokenStream → Prop
  | mk {s s₁ s₂ s₃ s₄ s₅ s' : TokenStream} {p : TypePath} {colon : Option Token} {l : Label}
      {assign : Token} :
      typePath.run s = .ok p s₁ → (accept (.mark .colon)).run s₁ = .ok colon s₂ →
      PropertyForm.ahead? config s₂.ahead = some .list → Declares s₂ s₃ →
      Lookahead.startsProperty s₃.ahead = true → label.run s₃ = .ok l s₄ →
      (mark .assign).run s₄ = .ok assign s₅ → ValueMeetsGroup s₅ s' → MeetsGroup config s s'

theorem ahead_of_declares {c : Contract} (h : Declares s s') (holds : c.ahead s.ahead) :
    c.ahead s'.ahead := by
  induction h with
  | nil => exact holds
  | cons run _ ih => exact ih ((nextProperty_keeps _ holds).ahead_of_ok run)

theorem ValueMeetsGroup.opens (h : ValueMeetsGroup s s') :
    s'.ahead.head?.any (·.opens?.isSome) = true := by
  have bracket : ∀ m : Mark, m.closer?.isSome = true → s'.ahead.head?.any (·.isMark m) = true →
      s'.ahead.head?.any (·.opens?.isSome) = true := by
    intro m isOpener starts
    obtain ⟨t, ht, isMark⟩ := (Option.any_eq_true _ _).1 starts
    exact (Option.any_eq_true _ _).2 ⟨t, ht, by rwa [Token.opens?_of_isMark isMark]⟩
  cases h with
  | block starts => exact bracket .leftBrace rfl starts
  | call _ _ _ starts => exact bracket .leftParen rfl starts

theorem ahead_of_valueMeetsGroup {c : Contract} (h : ValueMeetsGroup s s')
    (holds : c.ahead s.ahead) : c.ahead s'.ahead := by
  cases h with
  | block => exact holds
  | call _ _ run => exact (valuePath_keeps holds).ahead_of_ok run

/-- A group that reading comes to is one of the interior, brackets and all. -/
theorem group_of_meetsGroup (h : MeetsGroup config s s') (grouped : Grouped s.ahead) :
    ∃ g s'', group.run s' = .ok g s'' ∧ g.tokens ++ s''.ahead <:+ s.ahead := by
  have holds : (inGroups s.ahead).ahead s.ahead := ⟨grouped, List.suffix_refl _⟩
  cases h with
  | mk path colon _ declared _ label assign value =>
    have behindPath := (typePath_keeps holds).ahead_of_ok path
    have behindColon := (accept_keeps behindPath rfl).ahead_of_ok colon
    have atLabel := ahead_of_declares declared behindColon
    have behindLabel := (label_keeps atLabel).ahead_of_ok label
    have behindAssign := (mark_keeps behindLabel rfl rfl).ahead_of_ok assign
    have atGroup := ahead_of_valueMeetsGroup value behindAssign
    obtain ⟨g, s'', run, ahead, -⟩ := exists_group_of_grouped atGroup.1 value.opens
    exact ⟨g, s'', run, ahead ▸ atGroup.2⟩

/-- Where the tokens go on in groups, an interior fails for one of them or at their end. -/
theorem isAbout_of_interior {span : Span} {e : Failure} (grouped : Grouped s.ahead)
    (run : (interior config span).run s = .error e s') :
    ¬ e.IsDelimiter ∧ ∃ d, e = .rejected d ∧ d.IsAbout s.ahead := by
  have holds : (inGroups s.ahead).ahead s.ahead := ⟨grouped, List.suffix_refl _⟩
  have keeps : Keeps (inGroups s.ahead) ((interior config span).run s) := interior_keeps holds
  rw [run] at keeps
  cases keeps with
  | error fails => exact fails

/-! ## Whole tags -/

theorem not_isDelimiter_atSlash {e : Failure} (slash : Token) (h : ¬ e.IsDelimiter) :
    ¬ (e.atSlash slash).IsDelimiter := by
  cases e with
  | nothingToSkip | strayCloser => exact h
  | rejected e =>
    rw [Failure.atSlash]
    split
    case isTrue kind =>
      have same : ((e.reanchored slash).causedAt e.location).kind = .unexpectedEnd := kind
      refine Failure.not_isDelimiter_of_kind ?_
      rw [same]
      rfl
    case isFalse => exact h

/-- Where a slash ends the tag, a failure comes from the interior. -/
theorem exists_interior_of_component {opener slash : Token} {s₁ s₂ : TokenStream} {x : Suffix}
    {e : Failure} (opened : (mark .lessThan).run s = .ok opener s₁)
    (found : suffix.run s₁ = .ok x s₂) (isSlash : x.slash = some slash)
    (run : (component config).run s = .error e s') :
    ∃ e' s₃, (interior config (opener.spanTo x.closer)).run ⟨x.interior, slash.start, [], []⟩ =
      .error e' s₃ ∧ e = e'.atSlash slash := by
  rw [component, run_bind_of_ok opened, run_bind_of_ok found] at run
  simp only [isSlash] at run
  obtain ⟨s₃, inside, -⟩ := run_within (p := interior config (opener.spanTo x.closer)) x.interior
    slash.start s₂
  cases inner : (interior config (opener.spanTo x.closer)).run
      ⟨x.interior, slash.start, [], []⟩ with
  | ok c s₄ =>
    rw [inner] at inside
    rw [run_bind_of_ok inside] at run
    cases run
  | error e' s₄ =>
    rw [inner] at inside
    rw [run_bind_of_ok inside] at run
    cases run
    exact ⟨e', s₄, rfl, rfl⟩

/-- Behind a suffix that was found, a tag fails for other reasons than its brackets. -/
theorem not_isDelimiter_of_component {opener : Token} {s₁ s₂ : TokenStream} {x : Suffix}
    {e : Failure} (opened : (mark .lessThan).run s = .ok opener s₁)
    (found : suffix.run s₁ = .ok x s₂) (run : (component config).run s = .error e s') :
    ¬ e.IsDelimiter := by
  cases isSlash : x.slash with
  | none =>
    rw [component, run_bind_of_ok opened, run_bind_of_ok found] at run
    simp only [isSlash] at run
    cases run
    exact Failure.not_isDelimiter_of_kind rfl
  | some slash =>
    obtain ⟨e', s₃, inner, rfl⟩ := exists_interior_of_component opened found isSlash run
    have grouped := (suffix_eq_ok_iff.1 found).1.grouped
    exact not_isDelimiter_atSlash slash (isAbout_of_interior grouped inner).1

/-- Where the suffix of a tag is found, every group that reading the interior comes to is there, and
reading it does not fail for its brackets. So a tag fails for its brackets exactly if the search for
its suffix does, with the same failure. -/
theorem component_delimiters (config : Config) (s : TokenStream) :
    (∀ opener s₁ x s₂, (mark .lessThan).run s = .ok opener s₁ → suffix.run s₁ = .ok x s₂ →
      ∀ inner : TokenStream, inner.ahead = x.interior →
        (∀ s', MeetsGroup config inner s' →
          ∃ g s'', group.run s' = .ok g s'' ∧ g.tokens ++ s''.ahead <:+ x.interior) ∧
        ∀ span e s', (interior config span).run inner = .error e s' → ¬ e.IsDelimiter) ∧
    ∀ e : Failure, e.IsDelimiter →
      ((∃ s', (component config).run s = .error e s') ↔
        ∃ opener s₁ s₂, (mark .lessThan).run s = .ok opener s₁ ∧
          suffix.run s₁ = .error e s₂) := by
  constructor
  · intro opener s₁ x s₂ _ found inner ahead
    have grouped : Grouped inner.ahead := ahead ▸ (suffix_eq_ok_iff.1 found).1.grouped
    refine ⟨fun s' meets => ?_, fun span e s' run => (isAbout_of_interior grouped run).1⟩
    rw [← ahead]
    exact group_of_meetsGroup meets grouped
  · intro e delimiter
    constructor
    · rintro ⟨s', run⟩
      cases opened : (mark .lessThan).run s with
      | error e' s₁ =>
        rw [component, run_bind, opened] at run
        cases run
        exact absurd delimiter (not_isDelimiter_of_consume (Mark.not_mem_closerNames rfl) opened)
      | ok opener s₁ =>
        cases found : suffix.run s₁ with
        | ok x s₂ => exact absurd delimiter (not_isDelimiter_of_component opened found run)
        | error e' s₂ =>
          rw [component, run_bind_of_ok opened, run_bind, found] at run
          cases run
          exact ⟨opener, s₁, s', rfl, found⟩
    · rintro ⟨opener, s₁, s₂, opened, fails⟩
      refine ⟨s₂, ?_⟩
      rw [component, run_bind_of_ok opened, run_bind, fails]

end Parser

end ComponentMarkup
