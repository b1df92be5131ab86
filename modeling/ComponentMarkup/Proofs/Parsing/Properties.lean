import ComponentMarkup.Proofs.Parsing.Expressions
import Mathlib.Data.Bool.Basic

/-!
# Reading properties

Declarations are read one by one as long as a label with its `=` comes next. A declaration does not
take part in the one behind it, since that starts with a name.

## Main definitions

* `Lookahead.EndsDeclaration` — the tokens end, or go on with a name.

## Main statements

* `Parser.property_sound`, `Parser.property_complete` — one declaration.
* `PropertyList.fault?_eq_none_iff` — which declarations may stand together.
* `PropertyList.nodup_winners` — the declarations that count have distinct labels.
* `Parser.nextProperty_sound`, `Parser.nextProperty_complete` — the next declaration.
-/

namespace ComponentMarkup

open Grammar

namespace Lookahead

variable {ts us rest : List Token} {names : List Token} {t : Token}

/-- The tokens end, or a name comes next. -/
def EndsDeclaration (ts : List Token) : Prop := ts.head?.all Token.isIdentifier = true

theorem EndsDeclaration.mark? (h : EndsDeclaration ts) (m : Mark) : mark? m ts = none := by
  cases ts with
  | nil => rfl
  | cons t ts => exact mark?_cons_of_isIdentifier h

theorem EndsDeclaration.endsExpression (h : EndsDeclaration ts) : EndsExpression ts :=
  ⟨⟨h.mark? _, doubleColon?_of_mark? (h.mark? _)⟩, h.mark? _⟩

theorem identifier?_eq_some_iff :
    identifier? ts = some (t, us) ↔ ts = t :: us ∧ t.isIdentifier = true := by
  cases ts with
  | nil => simp [identifier?]
  | cons u ts =>
    simp only [identifier?, Option.ite_none_right_eq_some, Option.some.injEq, List.cons.injEq,
      Prod.mk.injEq]
    grind

theorem dashedTail_sound (h : dashedTail ts = (names, rest)) :
    ∃ ds, Repeated IsExtension ds names ∧ ts = ds ++ rest := by
  fun_induction dashedTail ts generalizing names rest with
  | case1 dash name ts both names' rest' eq ih =>
    cases h
    obtain ⟨ds, repeated, rfl⟩ := ih eq
    obtain ⟨isDash, isName⟩ := Bool.and_eq_true_iff.1 both
    exact ⟨[dash, name] ++ ds, .cons (.dash isDash isName) repeated, rfl⟩
  | case2 dash name ts =>
    cases h
    exact ⟨[], .nil, rfl⟩
  | case3 ts =>
    cases h
    exact ⟨[], .nil, rfl⟩

theorem dashedTail_complete (h : Repeated IsExtension ts names)
    (follow : mark? .minus rest = none) :
    dashedTail (ts ++ rest) = (names, rest) := by
  induction h with
  | nil =>
    rcases rest with _ | ⟨t, _ | ⟨u, us⟩⟩
    · rfl
    · rfl
    · have : t.isMark .minus = false := by simpa [mark?] using follow
      simp [dashedTail, this]
  | @cons _ us _ _ first _ ih =>
    cases first with
    | dash isDash isName => simp [dashedTail, isDash, isName, ih]

theorem dashedName?_eq_some {ds : List Token} {name : Token} (isName : name.isIdentifier = true)
    (h : Repeated IsExtension ds names) (follow : mark? .minus rest = none) :
    dashedName? (name :: (ds ++ rest)) = some (name, names, rest) := by
  simp [dashedName?, identifier?, isName, dashedTail_complete h follow]

end Lookahead

/-! ## Labels -/

namespace PropertyList

variable {config : Config} {seen ps : List Property}

/-- A declaration is at fault by its own label, or by a declaration before it. -/
theorem faultAfter?_eq_none_iff :
    faultAfter? config seen ps = none ↔
      (∀ p ∈ ps, p.key ≠ config.reservedLabel ∧ p.label.isPlain = true) ∧
        (config.duplicateLabels = .error →
          (ps.map Property.key).Nodup ∧ ∀ p ∈ ps, ∀ q ∈ seen, q.key ≠ p.key) := by
  induction ps generalizing seen with
  | nil => simp [faultAfter?]
  | cons p ps ih =>
    by_cases reserved : p.key = config.reservedLabel
    · have : p.label.text = config.reservedLabel := reserved
      simp [faultAfter?, this, reserved]
    have notReserved : p.label.text ≠ config.reservedLabel := reserved
    cases plain : p.label.isPlain with
    | false => simp [faultAfter?, notReserved, plain]
    | true =>
      cases policy : config.duplicateLabels with
      | lastWins => simp [faultAfter?, notReserved, plain, policy, ih, reserved]
      | error =>
        cases found : seen.find? (·.key = p.key) with
        | some q =>
          have same : q.key = p.key := by simpa using List.find?_some found
          have := List.mem_of_find?_eq_some found
          simp only [faultAfter?, notReserved, plain, policy, found]
          grind
        | none =>
          have new : ∀ q ∈ seen, q.key ≠ p.key := by simpa using found
          simp only [faultAfter?, notReserved, plain, policy, found]
          grind

theorem fault?_eq_none_iff :
    fault? config ps = none ↔
      (∀ p ∈ ps, p.key ≠ config.reservedLabel ∧ p.label.isPlain = true) ∧
        (config.duplicateLabels = .error → (ps.map Property.key).Nodup) := by
  simp [fault?, faultAfter?_eq_none_iff]

theorem winners_sublist (ps : List Property) : (winners ps).Sublist ps := by
  fun_induction winners ps with
  | case1 => exact .slnil
  | case2 q ps _ ih => exact ih.cons q
  | case3 q ps _ ih => exact ih.cons_cons q

theorem mem_of_mem_winners {p : Property} (h : p ∈ winners ps) : p ∈ ps :=
  (winners_sublist ps).mem h

/-- The declarations that count have distinct labels. -/
theorem nodup_winners (ps : List Property) : ((winners ps).map Property.key).Nodup := by
  fun_induction winners ps with
  | case1 => exact List.nodup_nil
  | case2 q ps _ ih => exact ih
  | case3 q ps last ih =>
    refine List.nodup_cons.2 ⟨fun again => ?_, ih⟩
    obtain ⟨p, hp, same⟩ := List.mem_map.1 again
    exact last (List.any_eq_true.2 ⟨p, mem_of_mem_winners hp, by simpa using same⟩)

end PropertyList

/-- A declaration with a plain label is a property. -/
theorem Grammar.isProperty_iff {ts : List Token} {p : Property} :
    IsProperty ts p ↔ IsDeclaration ts p ∧ p.label.isPlain = true := by
  constructor
  · rintro ⟨isName, isAssign, isExpression, isComma⟩
    exact ⟨.mk (.mk isName .nil) isAssign isExpression isComma, rfl⟩
  · rintro ⟨⟨⟨isName, repeated⟩, isAssign, isExpression, isComma⟩, plain⟩
    cases repeated with
    | nil => exact .mk isName isAssign isExpression isComma
    | cons => cases plain

theorem Grammar.IsProperty.exists_expression {ts : List Token} {p : Property}
    (h : IsProperty ts p) : ∃ us, IsExpression us p.value ∧ us <:+: ts := by
  obtain @⟨name, assign, us, comma, e, -, -, isExpression, -⟩ := h
  exact ⟨us, isExpression, [name, assign], comma, by simp⟩

/-- What is kept was declared. -/
theorem Grammar.mem_of_mem_kept {start : Source.Location} {p : Property} {ps : List Property}
    (h : p ∈ (kept start ps).properties) : p ∈ ps :=
  PropertyList.mem_of_mem_winners (List.mem_mergeSort.1 h)

open Lookahead

namespace Parser

variable {s s' : TokenStream} {ts : List Token} {p : Property}

theorem label_sound {l : Label} (h : label.run s = .ok l s') :
    ∃ ts, IsLabel ts l ∧ s = s'.before ts := by
  rw [label, run_bind_of_ok run_ahead] at h
  cases found : dashedName? s.ahead with
  | none =>
    simp only [found, run_bind_of_ok run_peek] at h
    split at h <;> cases h
  | some r =>
    obtain ⟨name, extension, rest⟩ := r
    simp only [found] at h
    cases h
    obtain ⟨⟨t, us⟩, first, eq⟩ := Option.map_eq_some_iff.1 found
    obtain ⟨ahead, isName⟩ := identifier?_eq_some_iff.1 first
    simp only [Prod.mk.injEq] at eq
    obtain ⟨rfl, tail⟩ := eq
    obtain ⟨ds, repeated, rfl⟩ := dashedTail_sound tail
    exact ⟨t :: ds, .mk isName repeated, TokenStream.eq_before ahead⟩

theorem label_complete {l : Label} (h : IsLabel ts l) (follow : mark? .minus s.ahead = none) :
    label.run (s.before ts) = .ok l s := by
  obtain @⟨ds, name, more, isName, repeated⟩ := h
  rw [label, run_bind_of_ok run_ahead]
  simp only [TokenStream.ahead_before, List.cons_append,
    dashedName?_eq_some isName repeated follow]
  rfl

theorem property_sound (h : property.run s = .ok p s') :
    ∃ ts, IsDeclaration ts p ∧ s = s'.before ts := by
  obtain ⟨label, s₁, hlabel, h⟩ := run_bind_eq_ok.1 h
  obtain ⟨assign, s₂, hassign, h⟩ := run_bind_eq_ok.1 h
  obtain ⟨e, s₃, hvalue, h⟩ := run_bind_eq_ok.1 h
  obtain ⟨found, s₄, hcomma, h⟩ := run_bind_eq_ok.1 h
  cases h
  obtain ⟨ls, isLabel, rfl⟩ := label_sound hlabel
  obtain ⟨isAssign, rfl⟩ := mark_eq_ok_iff.1 hassign
  obtain ⟨ts, isExpression, rfl⟩ := expression_sound hvalue
  obtain ⟨comma, isComma, rfl⟩ := accept_sound hcomma
  exact ⟨_, .mk isLabel isAssign isExpression isComma, by simp [TokenStream.before]⟩

theorem property_complete (h : IsDeclaration ts p) (follow : EndsDeclaration s.ahead) :
    property.run (s.before ts) = .ok p s := by
  obtain @⟨ls, ts, comma, label, assign, e, isLabel, isAssign, isExpression, isComma⟩ := h
  have ends : EndsExpression (s.before comma).ahead := by
    cases isComma with
    | absent => exact follow.endsExpression
    | present is =>
      refine ⟨endsPath_cons (Token.isMark_of_isMark is nofun) (Token.isMark_of_isMark is nofun), ?_⟩
      exact mark?_cons_of_isMark is nofun
  have assigns : mark? .minus (((s.before comma).before ts).before [assign]).ahead = none :=
    mark?_cons_of_isMark isAssign nofun
  rw [← List.singleton_append, TokenStream.before_append, TokenStream.before_append,
    TokenStream.before_append, property, run_bind_of_ok (label_complete isLabel assigns),
    run_bind_of_ok (run_mark isAssign), run_bind_of_ok (expression_complete isExpression ends),
    run_bind_of_ok (accept_complete isComma fun _ => follow.mark? _)]
  rfl

theorem property_whole_iff :
    (∃ s', property.run s = .ok p s' ∧ s'.ahead = []) ↔ IsDeclaration s.ahead p :=
  whole_iff property_sound fun h empty => property_complete h (by rw [empty]; rfl)

/-! ## Lists of properties -/

theorem startsProperty_append (h : IsDeclaration ts p) (us : List Token) :
    startsProperty (ts ++ us) = true := by
  obtain @⟨ls, ts, comma, label, assign, e, isLabel, isAssign, -, -⟩ := h
  obtain @⟨ds, name, more, isName, repeated⟩ := isLabel
  have follow : Lookahead.mark? .minus (assign :: (ts ++ comma ++ us)) = none :=
    mark?_cons_of_isMark isAssign nofun
  have ahead : name :: ds ++ assign :: (ts ++ comma) ++ us =
      name :: (ds ++ assign :: (ts ++ comma ++ us)) := by simp
  rw [ahead, startsProperty, dashedName?_eq_some isName repeated follow]
  simp [Lookahead.mark?, isAssign]

theorem nextProperty_sound (h : nextProperty.run s = .ok (some p) s') :
    ∃ ts, IsDeclaration ts p ∧ s = s'.before ts := by
  rw [nextProperty, run_bind_of_ok run_ahead] at h
  split at h
  case isTrue =>
    obtain ⟨q, s₁, hq, h⟩ := run_bind_eq_ok.1 h
    cases h
    exact property_sound hq
  case isFalse => cases h

theorem nextProperty_stays (h : nextProperty.run s = .ok none s') : s = s' := by
  rw [nextProperty, run_bind_of_ok run_ahead] at h
  split at h
  case isTrue =>
    obtain ⟨q, s₁, hq, h⟩ := run_bind_eq_ok.1 h
    cases h
  case isFalse =>
    cases h
    rfl

theorem nextProperty_complete (h : IsDeclaration ts p) (follow : EndsDeclaration s.ahead) :
    nextProperty.run (s.before ts) = .ok (some p) s := by
  rw [nextProperty, run_bind_of_ok run_ahead, TokenStream.ahead_before, startsProperty_append h,
    if_pos rfl]
  exact run_bind_of_ok (property_complete h follow)

end Parser

end ComponentMarkup
