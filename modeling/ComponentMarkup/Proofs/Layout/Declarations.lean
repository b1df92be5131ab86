import ComponentMarkup.Proofs.Layout.Values
import ComponentMarkup.Proofs.Parsing.Properties

/-!
# Properties with another layout

Which declarations are at fault, which of them count and in what order they are kept is told by
their labels alone.

## Main definitions

* `PropertySpec.Alike` — properties that are the same but for the places.

## Main statements

* `PropertyList.fault?_alike` — the first declaration at fault.
* `PropertyList.winners_alike`, `PropertyList.ordered_alike` — the declarations that count.
* `Parser.propertyList_alike`, `Parser.delegate_alike` — reading the two forms.
-/

namespace ComponentMarkup

open Grammar Lookahead

/-! ## Lists whose entries are related -/

section

variable {α β : Type} {R : α → β → Prop} {as : List α} {bs : List β}

theorem forall₂_find? (h : List.Forall₂ R as bs) (P : α → Bool) (P' : β → Bool)
    (same : ∀ {a b}, R a b → P' b = P a) : Option.Rel R (as.find? P) (bs.find? P') := by
  induction h with
  | nil => exact .none
  | cons first _ ih =>
    simp only [List.find?_cons, same first]
    split
    · exact .some first
    · exact ih

theorem forall₂_any (h : List.Forall₂ R as bs) {P : α → Bool} {P' : β → Bool}
    (same : ∀ {a b}, R a b → P' b = P a) : bs.any P' = as.any P := by
  induction h with
  | nil => rfl
  | cons first _ ih => simp only [List.any_cons, same first, ih]

/-- Sorting follows the entries, if related entries are compared the same. -/
theorem forall₂_mergeSort (h : List.Forall₂ R as bs) {le : α → α → Bool} {le' : β → β → Bool}
    (same : ∀ {a b a' b'}, R a b → R a' b' → le' b b' = le a a') :
    List.Forall₂ R (as.mergeSort le) (bs.mergeSort le') := by
  -- Both lists are sorted as one list of pairs.
  obtain ⟨zs, rfl, rfl, related⟩ : ∃ zs : List (α × β),
      as = zs.map Prod.fst ∧ bs = zs.map Prod.snd ∧ ∀ z ∈ zs, R z.1 z.2 := by
    refine ⟨as.zip bs, ?_, ?_, ?_⟩
    · rw [List.map_fst_zip h.length_eq.le]
    · rw [List.map_snd_zip h.length_eq.ge]
    · intro z hz
      exact (List.forall₂_iff_zip.1 h).2 hz
  have left : (zs.map Prod.fst).mergeSort le =
      (zs.mergeSort fun z w => le z.1 w.1).map Prod.fst := by
    refine (List.map_mergeSort fun z _ w _ => ?_).symm
    rfl
  have right : (zs.map Prod.snd).mergeSort le' =
      (zs.mergeSort fun z w => le z.1 w.1).map Prod.snd := by
    refine (List.map_mergeSort fun z hz w hw => ?_).symm
    exact (same (related z hz) (related w hw)).symm
  rw [left, right, List.forall₂_map_left_iff, List.forall₂_map_right_iff, List.forall₂_same]
  intro z hz
  exact related z (List.mem_mergeSort.1 hz)

end

/-! ## Labels of declarations -/

namespace PropertyList

variable {ps qs seen seen' : List Property}

theorem faultAfter?_alike (config : Config) (h : List.Forall₂ Property.Alike ps qs)
    (before : List.Forall₂ Property.Alike seen seen') :
    Option.Rel ParseError.Alike (faultAfter? config seen ps) (faultAfter? config seen' qs) := by
  induction h generalizing seen seen' with
  | nil => exact .none
  | @cons p q ps qs first _ ih =>
    have found := forall₂_find? before (·.key = p.key) (·.key = q.key) fun alike => by
      rw [alike.key, first.key]
    rw [faultAfter?, faultAfter?]
    generalize seen.find? (·.key = p.key) = r, seen'.find? (·.key = q.key) = r' at found ⊢
    simp only [first.label.text, first.label.isPlain]
    split
    · exact .some ⟨rfl, rfl, rfl⟩
    split
    · exact .some ⟨rfl, rfl, rfl⟩
    cases config.duplicateLabels with
    | lastWins => exact ih (.cons first before)
    | error =>
      cases found with
      | none => exact ih (.cons first before)
      | some => exact .some ⟨rfl, rfl, rfl⟩

theorem fault?_alike (config : Config) (h : List.Forall₂ Property.Alike ps qs) :
    Option.Rel ParseError.Alike (fault? config ps) (fault? config qs) :=
  faultAfter?_alike config h .nil

theorem winners_alike (h : List.Forall₂ Property.Alike ps qs) :
    List.Forall₂ Property.Alike (winners ps) (winners qs) := by
  induction h with
  | nil => exact .nil
  | @cons p q ps qs first rest ih =>
    have later : qs.any (·.key = q.key) = ps.any (·.key = p.key) :=
      forall₂_any rest fun alike => by rw [alike.key, first.key]
    rw [winners, winners, later]
    split
    · exact ih
    · exact .cons first ih

theorem messages_overridden (h : List.Forall₂ Property.Alike ps qs) :
    messages (overridden qs) = messages (overridden ps) := by
  induction h with
  | nil => rfl
  | @cons p q ps qs first rest ih =>
    have winner := forall₂_find? (List.forall₂_reverse_iff.2 rest) (·.key = p.key)
      (·.key = q.key) fun alike => by rw [alike.key, first.key]
    rw [overridden, overridden]
    generalize ps.reverse.find? (·.key = p.key) = r, qs.reverse.find? (·.key = q.key) = r'
      at winner ⊢
    cases winner with
    | none => exact ih
    | some =>
      simp only [messages, List.map_cons, Warning.overriddenLabel, first.key] at ih ⊢
      rw [ih]

theorem ordered_alike (h : List.Forall₂ Property.Alike ps qs) :
    List.Forall₂ Property.Alike (ordered ps) (ordered qs) :=
  forall₂_mergeSort h fun first second => by rw [first.key, second.key]

end PropertyList

/-- The same properties in another place. -/
inductive PropertySpec.Alike : PropertySpec → PropertySpec → Prop where
  | list {l l' : PropertyList} : List.Forall₂ Property.Alike l.properties l'.properties →
      Alike (.list l) (.list l')
  | delegate {d d' : Delegate} : d'.name.lexeme = d.name.lexeme →
      Alike (.delegate d) (.delegate d')

/-! ## Lookahead -/

namespace Lookahead

variable {ts us : List Token}

theorem identifier?_alike (h : Respaced ts us) :
    Option.Rel (fun r r' => r.1.Relaid r'.1 ∧ Respaced r.2 r'.2) (identifier? ts)
      (identifier? us) := by
  rcases h.cases with ⟨rfl, rfl⟩ | ⟨t, ts, u, us, rfl, rfl, first, rest⟩
  · exact .none
  · simp only [identifier?, first.isIdentifier]
    split
    · exact .some ⟨first, rest⟩
    · exact .none

theorem dashedTail_alike (h : Respaced ts us) :
    Relaid (dashedTail ts).1 (dashedTail us).1 ∧
      Respaced (dashedTail ts).2 (dashedTail us).2 := by
  fun_induction dashedTail ts generalizing us with
  | case1 dash name ts both names rest eq ih =>
    obtain ⟨dash', vs, rfl, first, more⟩ := h.cons_inv
    obtain ⟨name', us, rfl, second, tail⟩ := more.cons_inv
    obtain ⟨isNames, isRest⟩ := ih tail
    rw [eq] at isNames isRest
    rw [← first.isMark, ← second.isIdentifier] at both
    rw [dashedTail, if_pos both]
    exact ⟨.cons second isNames, isRest⟩
  | case2 dash name ts notBoth =>
    obtain ⟨dash', vs, rfl, first, more⟩ := h.cons_inv
    obtain ⟨name', us, rfl, second, -⟩ := more.cons_inv
    rw [← first.isMark, ← second.isIdentifier] at notBoth
    rw [dashedTail, if_neg notBoth]
    exact ⟨.nil, h⟩
  | case3 ts few =>
    have fewer : dashedTail us = ([], us) := by
      rcases h.cases with ⟨rfl, rfl⟩ | ⟨t, ts, u, us, rfl, rfl, -, more⟩
      · rfl
      rcases more.cases with ⟨rfl, rfl⟩ | ⟨t', ts, u', us, rfl, rfl, -, -⟩
      · rfl
      · exact absurd rfl (few t t' ts)
    rw [fewer]
    exact ⟨.nil, h⟩

theorem dashedName?_alike (h : Respaced ts us) :
    Option.Rel (fun r r' => r.1.Relaid r'.1 ∧ Relaid r.2.1 r'.2.1 ∧ Respaced r.2.2 r'.2.2)
      (dashedName? ts) (dashedName? us) := by
  have first := identifier?_alike h
  unfold dashedName?
  generalize identifier? ts = found, identifier? us = found' at first ⊢
  cases first with
  | none => exact .none
  | some related => exact .some ⟨related.1, dashedTail_alike related.2⟩

theorem startsProperty_eq (h : Respaced ts us) : startsProperty us = startsProperty ts := by
  have name := dashedName?_alike h
  unfold startsProperty
  generalize dashedName? ts = found, dashedName? us = found' at name ⊢
  cases name with
  | none => rfl
  | @some r r' related =>
    have assign := mark?_alike .assign related.2.2
    change (mark? .assign r'.2.2).isSome = (mark? .assign r.2.2).isSome
    generalize mark? .assign r.2.2 = rest, mark? .assign r'.2.2 = rest' at assign ⊢
    cases assign <;> rfl

end Lookahead

theorem PropertyForm.ahead?_eq {ts us : List Token} (config : Config) (h : Respaced ts us) :
    ahead? config us = ahead? config ts := by
  have first := identifier?_alike h
  unfold ahead?
  generalize identifier? ts = found, identifier? us = found' at first ⊢
  cases first with
  | none => rfl
  | some related => simp only [Option.map_some, related.1.lexeme]

/-! ## Reading properties -/

namespace Parser

variable {config : Config} {s s' : TokenStream}

theorem label_alike (h : s.Respaced s') : Alike Label.Alike (label.run s) (label.run s') := by
  rw [label, run_bind_of_ok run_ahead, run_bind_of_ok run_ahead]
  have name := dashedName?_alike h.ahead
  generalize dashedName? s.ahead = found, dashedName? s'.ahead = found' at name ⊢
  cases name with
  | some related => exact .ok (.of_relaid related.1 related.2.1) ⟨related.2.2, h.warnings⟩
  | none =>
    simp only
    rw [run_bind_of_ok run_peek, run_bind_of_ok run_peek]
    rcases h.ahead.cases with ⟨ahead, ahead'⟩ | ⟨t, ts, u, us, ahead, ahead', first, rest⟩
    · rw [ahead, ahead']
      exact unexpectedEnd_alike ..
    · rw [ahead, ahead']
      exact .rejected (ParseError.unexpectedToken_alike _ first)

theorem property_alike (h : s.Respaced s') :
    Alike Property.Alike (property.run s) (property.run s') := by
  refine (label_alike h).bind fun l l' s₁ s₁' _ _ label h₁ => ?_
  refine (consume_alike (.mark .assign) _ h₁).bind fun a a' s₂ s₂' ha ha' _ h₂ => ?_
  obtain ⟨isAssign, rfl⟩ := mark_eq_ok_iff.1 ha
  obtain ⟨-, rfl⟩ := mark_eq_ok_iff.1 ha'
  refine (expression_alike h₂ h₁.ahead isAssign).bind fun e e' _ _ _ _ value h₃ => ?_
  exact (accept_alike (.mark .comma) h₃).bind fun _ _ _ _ _ _ _ h₄ => .ok ⟨label, value⟩ h₄

theorem nextProperty_alike (h : s.Respaced s') :
    Alike (Option.Rel Property.Alike) (nextProperty.run s) (nextProperty.run s') := by
  rw [nextProperty, run_bind_of_ok run_ahead, run_bind_of_ok run_ahead, startsProperty_eq h.ahead]
  split
  case isTrue => exact (property_alike h).bind fun _ _ _ _ _ _ alike h => .ok (.some alike) h
  case isFalse => exact .ok .none h

theorem propertyList_alike (h : s.Respaced s') :
    Alike (fun l l' => List.Forall₂ Property.Alike l.properties l'.properties)
      ((propertyList config).run s) ((propertyList config).run s') := by
  rw [propertyList, run_bind_of_ok run_location, run_bind_of_ok run_location]
  refine (many_alike nextProperty_alike h).bind fun ps qs s₁ s₁' _ _ declared h₁ => ?_
  have faults := PropertyList.fault?_alike config declared
  generalize PropertyList.fault? config ps = fault, PropertyList.fault? config qs = fault'
    at faults ⊢
  cases faults with
  | some alike => exact .rejected alike
  | none =>
    have warnings : messages (s₁'.warnings ++ PropertyList.overridden qs) =
        messages (s₁.warnings ++ PropertyList.overridden ps) := by
      rw [messages_append, messages_append, h₁.warnings, PropertyList.messages_overridden declared]
    exact .ok (PropertyList.ordered_alike (PropertyList.winners_alike declared))
      ⟨h₁.ahead, warnings⟩

theorem delegate_alike (h : s.Respaced s') :
    Alike (fun d d' => d'.name.lexeme = d.name.lexeme) ((delegate config).run s)
      ((delegate config).run s') := by
  refine (consume_alike .identifier _ h).bind fun keyword keyword' _ _ _ _ isKeyword h => ?_
  simp only [isKeyword.lexeme]
  split
  case isTrue => exact .rejected ⟨rfl, rfl, rfl⟩
  case isFalse =>
    refine (consume_alike .identifier _ h).bind fun name name' _ _ _ _ isName h => ?_
    exact (accept_alike (.mark .comma) h).bind fun _ _ _ _ _ _ _ h =>
      .ok isName.lexeme ⟨h.ahead, h.warnings⟩

theorem propertySpec_alike (h : s.Respaced s') :
    Alike (Option.Rel PropertySpec.Alike) ((propertySpec config).run s)
      ((propertySpec config).run s') := by
  rw [propertySpec, run_bind_of_ok run_ahead, run_bind_of_ok run_ahead,
    PropertyForm.ahead?_eq config h.ahead]
  split
  case h_1 => exact .ok .none h
  case h_2 =>
    exact (propertyList_alike h).bind fun _ _ _ _ _ _ alike h => .ok (.some (.list alike)) h
  case h_3 =>
    exact (delegate_alike h).bind fun _ _ _ _ _ _ alike h => .ok (.some (.delegate alike)) h

end Parser

end ComponentMarkup
