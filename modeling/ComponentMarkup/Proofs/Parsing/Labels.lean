import ComponentMarkup.Proofs.Parsing.Properties
import Mathlib.Data.List.FinRange
import Mathlib.Data.List.Nodup

/-!
# Labels of a property list

Declarations are told apart by their places in the source, since one may be written just like
another. Of the declarations with one label the last one is stored, and each other one is warned
of; or, by the other policy, the second one is an error.

## Main definitions

* `Parser.ReadsDeclarations` — the declarations that are read from a stream, one by one.
* `PropertyList.Wins` — the declaration at a place is the last one with its label.
* `PropertyList.IsNormalForm` — what becomes of declarations that are accepted.
* `PropertyList.Offends` — the declaration at a place must not stand there.
* `PropertyList.IsReport` — what is told of a declaration that must not stand where it does.

## Main statements

* `PropertyList.winners_eq`, `PropertyList.overrides_overridden` — stored and warned of.
* `Grammar.eq_kept_iff`, `Grammar.isProperties_list_iff_isNormalForm` — what the grammar keeps of the
  declarations is their normal form.
* `PropertyList.exists_of_fault?` — the fault is the first one.
* `Parser.isNormalForm_of_propertyList` — a list that is accepted is in normal form.
* `Parser.reports_of_propertyList` — a list is rejected for the first declaration that offends.
-/

namespace ComponentMarkup

open Source (Location Span)

/-! ## Sorting -/

theorem pairwise_mergeSort_key {α : Type} (key : α → String) (as : List α) :
    (as.mergeSort fun a b => key a ≤ key b).Pairwise fun a b => key a ≤ key b := by
  have sorted : (as.mergeSort fun a b => key a ≤ key b).Pairwise
      fun a b => decide (key a ≤ key b) = true := by
    refine List.pairwise_mergeSort ?_ ?_ as
    · intro a b c hab hbc
      simp only [decide_eq_true_eq] at hab hbc ⊢
      exact Std.le_trans hab hbc
    · intro a b
      simpa using Std.le_total
  simpa using sorted

theorem PropertyList.pairwise_ordered (ps : List Property) :
    (ordered ps).Pairwise fun p q => p.key ≤ q.key :=
  pairwise_mergeSort_key Property.key ps

/-- Each label comes once, in ascending order. -/
theorem Grammar.ascending_kept (start : Location) (declared : List Property) :
    ((kept start declared).properties.map Property.key).Pairwise (· < ·) := by
  have distinct : ((PropertyList.ordered (PropertyList.winners declared)).map Property.key).Nodup :=
    ((List.mergeSort_perm ..).map Property.key).nodup_iff.2 (PropertyList.nodup_winners declared)
  have ascending := PropertyList.pairwise_ordered (PropertyList.winners declared)
  rw [List.Nodup, List.pairwise_map] at distinct
  rw [List.pairwise_map]
  exact (ascending.and distinct).imp fun ⟨le, ne⟩ => Std.lt_of_le_of_ne le ne

/-! ## Spans -/

namespace Source.Span

/-- From the least start to the greatest end of some spans. -/
structure IsAround (x : Span) (ys : List Span) : Prop where
  start_mem : ∃ y ∈ ys, x.start = y.start
  stop_mem : ∃ y ∈ ys, x.stop = y.stop
  start_le : ∀ y ∈ ys, x.start.offset ≤ y.start.offset
  le_stop : ∀ y ∈ ys, y.stop.offset ≤ x.stop.offset

theorem IsAround.of_join {x y z : Span} {ys : List Span} (h : z.IsAround (x.join y :: ys)) :
    z.IsAround (x :: y :: ys) := by
  obtain ⟨⟨a, ha, start⟩, ⟨b, hb, stop⟩, least, greatest⟩ := h
  rw [List.forall_mem_cons] at least greatest
  refine ⟨?_, ?_, ?_, ?_⟩
  · rcases List.mem_cons.1 ha with rfl | ha
    · simp only [join] at start
      split at start
      · exact ⟨x, by simp, start⟩
      · exact ⟨y, by simp, start⟩
    · exact ⟨a, by simp [ha], start⟩
  · rcases List.mem_cons.1 hb with rfl | hb
    · simp only [join] at stop
      split at stop
      · exact ⟨x, by simp, stop⟩
      · exact ⟨y, by simp, stop⟩
    · exact ⟨b, by simp [hb], stop⟩
  · have both : (x.join y).start.offset ≤ x.start.offset ∧
        (x.join y).start.offset ≤ y.start.offset := by
      simp only [join]
      split <;> omega
    simp only [List.forall_mem_cons]
    exact ⟨least.1.trans both.1, least.1.trans both.2, least.2⟩
  · have both : x.stop.offset ≤ (x.join y).stop.offset ∧
        y.stop.offset ≤ (x.join y).stop.offset := by
      simp only [join]
      split <;> omega
    simp only [List.forall_mem_cons]
    exact ⟨both.1.trans greatest.1, both.2.trans greatest.1, greatest.2⟩

theorem isAround_joinAll (x : Span) (ys : List Span) : (x.joinAll ys).IsAround (x :: ys) := by
  induction ys generalizing x with
  | nil => exact ⟨⟨x, by simp, rfl⟩, ⟨x, by simp, rfl⟩, by simp [joinAll], by simp [joinAll]⟩
  | cons y ys ih => exact (ih (x.join y)).of_join

end Source.Span

/-! ## Reading the declarations -/

namespace Parser

open Lookahead

variable {config : Config} {s s' s₁ : TokenStream} {ps : List Property}

/-- The declarations that are read one by one, until the tokens go on with none. -/
inductive ReadsDeclarations : TokenStream → List Property → TokenStream → Prop where
  | stop {s : TokenStream} : startsProperty s.ahead = false → ReadsDeclarations s [] s
  | next {s s₁ s₂ : TokenStream} {p : Property} {ps : List Property} :
      startsProperty s.ahead = true → property.run s = .ok p s₁ → ReadsDeclarations s₁ ps s₂ →
      ReadsDeclarations s (p :: ps) s₂

theorem nextProperty_eq_ok_some_iff {p : Property} :
    nextProperty.run s = .ok (some p) s' ↔
      startsProperty s.ahead = true ∧ property.run s = .ok p s' := by
  rw [nextProperty, run_bind_of_ok run_ahead]
  cases startsProperty s.ahead with
  | false =>
    simp only [Bool.false_eq_true, if_false, false_and, iff_false]
    intro h
    cases h
  | true =>
    simp only [if_true, true_and]
    constructor
    · intro h
      obtain ⟨q, s₁, hq, h⟩ := run_bind_eq_ok.1 h
      cases h
      exact hq
    · exact fun h => run_bind_of_ok h

theorem nextProperty_eq_ok_none_iff :
    nextProperty.run s = .ok none s' ↔ startsProperty s.ahead = false ∧ s = s' := by
  constructor
  · intro h
    refine ⟨?_, nextProperty_stays h⟩
    rw [nextProperty, run_bind_of_ok run_ahead] at h
    split at h
    case isTrue =>
      obtain ⟨q, s₁, -, h⟩ := run_bind_eq_ok.1 h
      cases h
    case isFalse none => simpa using none
  · rintro ⟨none, rfl⟩
    rw [nextProperty, run_bind_of_ok run_ahead, none]
    rfl

theorem property_shorter {p : Property} (h : property.run s = .ok p s') :
    s'.ahead.length < s.ahead.length := by
  obtain ⟨ts, isDeclaration, rfl⟩ := property_sound h
  cases isDeclaration
  simp only [TokenStream.ahead_before, List.length_append, List.length_cons]
  omega

theorem many_nextProperty_iff :
    EStateM.run (many nextProperty) s = .ok ps s' ↔ ReadsDeclarations s ps s' := by
  constructor
  · intro h
    change many nextProperty s = .ok ps s' at h
    fun_induction many nextProperty s generalizing ps with
    | case1 s s₁ none =>
      cases h
      obtain ⟨stops, rfl⟩ := nextProperty_eq_ok_none_iff.1 none
      exact .stop stops
    | case2 => cases h
    | case3 s p rest first shorter more s₁ hmore ih =>
      cases h
      obtain ⟨starts, run⟩ := nextProperty_eq_ok_some_iff.1 first
      exact .next starts run (ih hmore)
    | case4 => cases h
    | case5 s p rest first longer =>
      exact absurd (property_shorter (nextProperty_eq_ok_some_iff.1 first).2) longer
  · intro h
    change many nextProperty s = .ok ps s'
    induction h with
    | stop stops =>
      rw [many]
      simp only [nextProperty_eq_ok_none_iff.2 ⟨stops, rfl⟩]
    | next starts run _ ih =>
      rw [many]
      simp only [nextProperty_eq_ok_some_iff.2 ⟨starts, run⟩, property_shorter run, ih,
        dite_true]

namespace ReadsDeclarations

theorem sound (h : ReadsDeclarations s ps s') :
    ∃ ts, Grammar.Repeated Grammar.IsDeclaration ts ps ∧ s = s'.before ts := by
  induction h with
  | stop => exact ⟨[], .nil, rfl⟩
  | next _ run _ ih =>
    obtain ⟨ts, isDeclaration, rfl⟩ := property_sound run
    obtain ⟨us, repeated, rfl⟩ := ih
    exact ⟨ts ++ us, .cons isDeclaration repeated, by simp⟩

theorem warnings_eq (h : ReadsDeclarations s ps s') : s'.warnings = s.warnings := by
  obtain ⟨ts, -, rfl⟩ := h.sound
  rfl

/-- The name of a label is one of the tokens, and the label starts with it. -/
theorem name_mem (h : ReadsDeclarations s ps s') :
    ∀ p ∈ ps, p.label.name ∈ s.ahead ∧ p.label.span.start = p.label.name.start := by
  intro p hp
  obtain ⟨ts, repeated, rfl⟩ := h.sound
  obtain ⟨us, isDeclaration, inside⟩ := repeated.exists_of_mem hp
  cases isDeclaration with
  | mk isLabel => cases isLabel with
    | mk => exact ⟨List.mem_append_left _ (inside.subset (by simp)), rfl⟩

theorem run_propertyList (h : ReadsDeclarations s ps s₁) :
    (propertyList config).run s =
      match PropertyList.fault? config ps with
      | some e => .error (.rejected e) s₁
      | none =>
        let properties := PropertyList.ordered (PropertyList.winners ps)
        .ok ⟨properties, PropertyList.spanOf s.location properties⟩
          { s₁ with
            warnings := s₁.warnings ++ PropertyList.overridden ps
            journal := s₁.journal ++
              [⟨.properties, PropertyList.note (properties.map Property.key)⟩] } := by
  rw [propertyList, run_bind_of_ok run_location,
    run_bind_of_ok (many_nextProperty_iff.2 h)]
  cases PropertyList.fault? config ps <;> rfl

end ReadsDeclarations

theorem exists_readsDeclarations {l : PropertyList} (h : (propertyList config).run s = .ok l s') :
    ∃ ps s₁, ReadsDeclarations s ps s₁ := by
  rw [propertyList, run_bind_of_ok run_location] at h
  obtain ⟨ps, s₁, reads, -⟩ := run_bind_eq_ok.1 h
  exact ⟨ps, s₁, many_nextProperty_iff.1 reads⟩

end Parser

/-! ## Places -/

namespace PropertyList

variable {config : Config} {ps : List Property}

/-- The declaration at `i` is the last one with its label. -/
def Wins (ps : List Property) (i : Fin ps.length) : Prop := ∀ j, i < j → ps[j].key ≠ ps[i].key

instance (ps : List Property) : DecidablePred (Wins ps) := fun _ =>
  inferInstanceAs (Decidable (∀ _, _))

/-- The places of the declarations that are the last ones with their labels, in order. -/
def winning (ps : List Property) : List (Fin ps.length) :=
  (List.finRange ps.length).filter (Wins ps ·)

/-- The places of all other declarations, in order. -/
def losing (ps : List Property) : List (Fin ps.length) :=
  (List.finRange ps.length).filter (¬ Wins ps ·)

theorem wins_cons_succ (p : Property) (i : Fin ps.length) :
    Wins (p :: ps) i.succ ↔ Wins ps i := by
  simp [Wins, Fin.forall_fin_succ]

theorem wins_cons_zero (p : Property) :
    Wins (p :: ps) 0 ↔ ps.any (·.key = p.key) = false := by
  simp [Wins, Fin.forall_fin_succ, List.forall_mem_iff_get]

theorem filter_finRange_succ {n : ℕ} (q : Fin (n + 1) → Bool) :
    (List.finRange (n + 1)).filter q =
      (if q 0 then [0] else []) ++ ((List.finRange n).filter fun i => q i.succ).map Fin.succ := by
  rw [List.finRange_succ, List.filter_cons, List.filter_map]
  cases q 0 <;> rfl

theorem winning_cons (p : Property) (ps : List Property) :
    winning (p :: ps) =
      (if ps.any (·.key = p.key) then [] else [0]) ++ (winning ps).map Fin.succ := by
  refine (filter_finRange_succ _).trans ?_
  simp only [wins_cons_succ, wins_cons_zero, winning]
  cases ps.any (·.key = p.key) <;> rfl

theorem losing_cons (p : Property) (ps : List Property) :
    losing (p :: ps) =
      (if ps.any (·.key = p.key) then [0] else []) ++ (losing ps).map Fin.succ := by
  refine (filter_finRange_succ _).trans ?_
  simp only [wins_cons_succ, wins_cons_zero, losing]
  cases ps.any (·.key = p.key) <;> rfl

/-- The declarations that count are those at the winning places. -/
theorem winners_eq (ps : List Property) : winners ps = (winning ps).map ps.get := by
  induction ps with
  | nil => rfl
  | cons p ps ih =>
    rw [winning_cons, winners, List.map_append, List.map_map, ih]
    cases ps.any (·.key = p.key) <;> rfl

/-- A warning for the declaration at `i`: it is at the label and names the place of the declaration
that wins. -/
structure Overrides (ps : List Property) (i : Fin ps.length) (w : Warning) : Prop where
  code : w.diagnostic.code = some "P030"
  token : w.token = some ps[i].label.name
  location : w.diagnostic.location = ps[i].label.span.start
  span : w.diagnostic.span = some ps[i].label.span
  winner : ∃ j, i < j ∧ ps[j].key = ps[i].key ∧ Wins ps j ∧
    w.diagnostic.help = some s!"The declaration at {ps[j].label.span.start.text} is used instead."

theorem Overrides.cons {i : Fin ps.length} {w : Warning} (h : Overrides ps i w) (p : Property) :
    Overrides (p :: ps) i.succ w := by
  obtain ⟨code, token, location, span, j, later, same, wins, help⟩ := h
  exact ⟨code, token, location, span, j.succ, Fin.succ_lt_succ_iff.2 later, same,
    (wins_cons_succ p j).2 wins, help⟩

/-- The last declaration of a label. -/
theorem exists_wins_of_find?_reverse {key : String} {p : Property}
    (h : ps.reverse.find? (·.key = key) = some p) : ∃ j, ps[j] = p ∧ p.key = key ∧ Wins ps j := by
  induction ps with
  | nil => cases h
  | cons q ps ih =>
    rw [List.reverse_cons, List.find?_append] at h
    rcases Option.or_eq_some_iff.1 h with h | ⟨none, h⟩
    · obtain ⟨j, at_j, same, wins⟩ := ih h
      exact ⟨j.succ, at_j, same, (wins_cons_succ q j).2 wins⟩
    · have same : q.key = key ∧ q = p := by simpa using h
      obtain ⟨rfl, rfl⟩ := same
      refine ⟨0, rfl, rfl, (wins_cons_zero q).2 ?_⟩
      simpa using none

theorem overrides_overridden (ps : List Property) :
    List.Forall₂ (Overrides ps) (losing ps) (overridden ps) := by
  induction ps with
  | nil => exact .nil
  | cons p ps ih =>
    have more : List.Forall₂ (Overrides (p :: ps)) ((losing ps).map Fin.succ) (overridden ps) :=
      List.forall₂_map_left_iff.2 (ih.imp fun _ _ h => h.cons p)
    rw [losing_cons, overridden]
    cases found : ps.reverse.find? (·.key = p.key) with
    | none =>
      have last : ps.any (·.key = p.key) = false := by simpa using found
      simpa [last] using more
    | some winner =>
      obtain ⟨j, rfl, same, wins⟩ := exists_wins_of_find?_reverse found
      have again : ps.any (·.key = p.key) = true :=
        List.any_eq_true.2 ⟨ps[j], List.getElem_mem _, by simpa using same⟩
      rw [again]
      exact .cons ⟨rfl, rfl, rfl, rfl, j.succ, Fin.succ_pos j, same, (wins_cons_succ p j).2 wins,
        rfl⟩ more

/-- The last declaration of all has the last word on its label. -/
theorem winners_eq_nil_iff : winners ps = [] ↔ ps = [] := by
  fun_induction winners ps with
  | case1 => simp
  | case2 p ps again ih =>
    have : ps ≠ [] := by
      rintro rfl
      cases again
    simp [ih, this]
  | case3 => simp

theorem wins_of_nodup (h : (ps.map Property.key).Nodup) (i : Fin ps.length) : Wins ps i := by
  rw [List.Nodup, List.pairwise_map, List.pairwise_iff_getElem] at h
  exact fun j later same => h i j i.isLt j.isLt later same.symm

theorem overridden_of_nodup (h : (ps.map Property.key).Nodup) : overridden ps = [] := by
  have none : losing ps = [] := by simp [losing, wins_of_nodup h]
  have overrides := overrides_overridden ps
  rw [none, List.forall₂_nil_left_iff] at overrides
  exact overrides

/-! ## Lists that are accepted -/

/-- What becomes of the declarations `ps` that are read from `start` on. -/
structure IsNormalForm (config : Config) (start : Location) (ps : List Property)
    (l : PropertyList) (ws : List Warning) : Prop where
  ascending : l.labels.Pairwise (· < ·)
  labels : ∀ p ∈ l.properties, p.label.isPlain = true ∧ p.key ≠ config.reservedLabel
  /-- The last declaration of each label is stored, and nothing else. -/
  stored : l.properties.Perm ((winning ps).map ps.get)
  distinct : config.duplicateLabels = .error → l.properties.Perm ps ∧ ws = []
  /-- Each other declaration has its warning, in the order of the source. -/
  warned : List.Forall₂ (Overrides ps) (losing ps) ws
  span_of_nil : ps = [] → l.span = ⟨start, start⟩
  span : ps ≠ [] → l.span.IsAround (l.properties.map Property.span)

theorem isAround_spanOf (start : Location) (h : ps ≠ []) :
    (spanOf start ps).IsAround (ps.map Property.span) := by
  cases ps with
  | nil => contradiction
  | cons p ps => exact Span.isAround_joinAll p.span (ps.map Property.span)

theorem perm_kept (start : Location) (ps : List Property) :
    (Grammar.kept start ps).properties.Perm ((winning ps).map ps.get) :=
  (List.mergeSort_perm ..).trans (.of_eq (winners_eq ps))

/-- The span of a list is around the properties that are stored. -/
theorem isAround_kept (start : Location) (h : ps ≠ []) :
    (Grammar.kept start ps).span.IsAround
      ((Grammar.kept start ps).properties.map Property.span) := by
  refine isAround_spanOf start fun none => h (winners_eq_nil_iff.1 ?_)
  rw [← List.perm_nil, ← none]
  exact (List.mergeSort_perm ..).symm

/-- What is kept of declarations that are accepted is their normal form. -/
theorem isNormalForm_kept (start : Location) (accepted : fault? config ps = none) :
    IsNormalForm config start ps (Grammar.kept start ps) (overridden ps) := by
  obtain ⟨fit, distinct⟩ := fault?_eq_none_iff.1 accepted
  have stored := perm_kept start ps
  refine ⟨Grammar.ascending_kept start ps, ?_, stored, ?_, overrides_overridden ps, ?_,
    isAround_kept start⟩
  · intro p hp
    obtain ⟨notReserved, plain⟩ := fit p (Grammar.mem_of_mem_kept hp)
    exact ⟨plain, notReserved⟩
  · intro policy
    have all : winning ps = List.finRange ps.length := by
      simp [winning, wins_of_nodup (distinct policy)]
    rw [all, List.map_get_finRange] at stored
    exact ⟨stored, overridden_of_nodup (distinct policy)⟩
  · rintro rfl
    simp [Grammar.kept, winners, ordered, spanOf]

end PropertyList

/-! ### What is kept, by the declarations alone -/

namespace PropertyList

variable {config : Config} {start : Location} {ps : List Property} {l : PropertyList}
  {ws : List Warning}

theorem exists_wins_of_mem {p : Property} (h : p ∈ ps) : ∃ j, ps[j].key = p.key ∧ Wins ps j := by
  have found : (ps.reverse.find? (·.key = p.key)).isSome = true :=
    List.find?_isSome.2 ⟨p, List.mem_reverse.2 h, by simp⟩
  obtain ⟨winner, found⟩ := Option.isSome_iff_exists.1 found
  obtain ⟨j, rfl, same, wins⟩ := exists_wins_of_find?_reverse found
  exact ⟨j, same, wins⟩

namespace IsNormalForm

/-- A reserved label would be one of those that are stored. -/
theorem key_ne_reservedLabel (h : IsNormalForm config start ps l ws) :
    ∀ p ∈ ps, p.key ≠ config.reservedLabel := by
  intro p hp
  obtain ⟨j, same, wins⟩ := exists_wins_of_mem hp
  have stored : ps[j] ∈ l.properties :=
    h.stored.mem_iff.2 (List.mem_map_of_mem (by simp [winning, wins]))
  rw [← same]
  exact (h.labels _ stored).2

theorem nodup (h : IsNormalForm config start ps l ws) (policy : config.duplicateLabels = .error) :
    (ps.map Property.key).Nodup := by
  have distinct : l.labels.Nodup := h.ascending.imp Std.ne_of_lt
  exact ((h.distinct policy).1.map Property.key).nodup_iff.1 distinct

end IsNormalForm

end PropertyList

namespace Grammar

open PropertyList

variable {start : Location} {ps : List Property} {l : PropertyList}

/-- What is kept is the last declaration of each label in ascending order, and nothing else. -/
theorem eq_kept_iff :
    l = kept start ps ↔ l.labels.Pairwise (· < ·) ∧ l.properties.Perm ((winning ps).map ps.get) ∧
      l.span = spanOf start l.properties := by
  constructor
  · rintro rfl
    exact ⟨ascending_kept start ps, perm_kept start ps, rfl⟩
  · rintro ⟨ascending, stored, span⟩
    have sorted := ascending_kept start ps
    rw [labels, List.pairwise_map] at ascending
    rw [List.pairwise_map] at sorted
    have properties : l.properties = (kept start ps).properties :=
      (stored.trans (perm_kept start ps).symm).eq_of_pairwise
        (fun _ _ _ _ lt gt => absurd gt (Std.not_gt_of_lt lt)) ascending sorted
    calc l = ⟨l.properties, spanOf start l.properties⟩ := by rw [← span]
      _ = kept start ps := by rw [properties]; rfl

/-- The rule of property lists, read without `kept`: such a list is the normal form of the
declarations, with the join of the spans of its properties as its span. -/
theorem isProperties_list_iff_isNormalForm {config : Config} {ts : List Token} :
    IsProperties config ts (some (.list l)) ↔
      ∃ first more ws, Repeated IsProperty ts (first :: more) ∧
        first.key ≠ config.delegateKeyword ∧
        IsNormalForm config first.span.start (first :: more) l ws ∧
        l.span = spanOf first.span.start l.properties := by
  constructor
  · intro h
    cases h with
    | @list _ first more repeated notKeyword notReserved unique =>
      have plain := repeated.forall_mem fun h => (isProperty_iff.1 h).2
      have accepted : fault? config (first :: more) = none :=
        fault?_eq_none_iff.2 ⟨fun p hp => ⟨notReserved p hp, plain p hp⟩, unique⟩
      exact ⟨first, more, _, repeated, notKeyword, isNormalForm_kept _ accepted, rfl⟩
  · rintro ⟨first, more, ws, repeated, notKeyword, normal, span⟩
    rw [eq_kept_iff.2 ⟨normal.ascending, normal.stored, span⟩]
    exact .list repeated notKeyword normal.key_ne_reservedLabel normal.nodup

end Grammar

/-- A list that is accepted is in normal form, and the stream gets the warnings of it. -/
theorem Parser.isNormalForm_of_propertyList {config : Config} {s s' : TokenStream}
    {l : PropertyList} (h : (propertyList config).run s = .ok l s') :
    ∃ ps s₁ ws, ReadsDeclarations s ps s₁ ∧ s'.ahead = s₁.ahead ∧
      s'.warnings = s.warnings ++ ws ∧
      PropertyList.IsNormalForm config s.location ps l ws := by
  obtain ⟨ps, s₁, reads⟩ := exists_readsDeclarations h
  rw [reads.run_propertyList] at h
  cases fault : PropertyList.fault? config ps with
  | some e =>
    simp only [fault] at h
    cases h
  | none =>
    simp only [fault] at h
    cases h
    exact ⟨ps, s₁, _, reads, rfl, by rw [reads.warnings_eq],
      PropertyList.isNormalForm_kept s.location fault⟩

/-! ### Three declarations of two labels -/

namespace Redeclared

def config : Config := { Config.standard with duplicateLabels := .lastWins }

/-- The declarations `b=1 a=2 b=1`. -/
def stream : TokenStream where
  ahead := [⟨.identifier, "b", ⟨"p", 1, 1, 0⟩⟩, ⟨.mark .assign, "=", ⟨"p", 1, 2, 1⟩⟩,
    ⟨.integer 1, "1", ⟨"p", 1, 3, 2⟩⟩, ⟨.identifier, "a", ⟨"p", 1, 5, 4⟩⟩,
    ⟨.mark .assign, "=", ⟨"p", 1, 6, 5⟩⟩, ⟨.integer 2, "2", ⟨"p", 1, 7, 6⟩⟩,
    ⟨.identifier, "b", ⟨"p", 1, 9, 8⟩⟩, ⟨.mark .assign, "=", ⟨"p", 1, 10, 9⟩⟩,
    ⟨.integer 1, "1", ⟨"p", 1, 11, 10⟩⟩]
  stop := ⟨"p", 1, 12, 11⟩

end Redeclared

/-- Two of the declarations are written alike. -/
theorem Parser.isNormalForm_of_propertyList_redeclared :
    ∃ l s', (propertyList Redeclared.config).run Redeclared.stream = .ok l s' ∧
      ∃ ps s₁ ws, ReadsDeclarations Redeclared.stream ps s₁ ∧ s'.ahead = s₁.ahead ∧
        s'.warnings = Redeclared.stream.warnings ++ ws ∧
        PropertyList.IsNormalForm Redeclared.config Redeclared.stream.location ps l ws := by
  cases run : (propertyList Redeclared.config).run Redeclared.stream with
  | ok l s' => exact ⟨l, s', rfl, isNormalForm_of_propertyList run⟩
  | error e s' =>
    have accepted :
        ((propertyList Redeclared.config).run Redeclared.stream matches .ok ..) = true := by
      decide +kernel
    rw [run] at accepted
    cases accepted

/-! ## Lists that are rejected -/

namespace PropertyList

variable {config : Config} {ps : List Property}

/-- The declaration at `i` must not stand where it does. -/
inductive Offends (config : Config) (ps : List Property) (i : Fin ps.length) : Prop where
  | reserved : ps[i].key = config.reservedLabel → Offends config ps i
  | dashed : ps[i].label.isPlain = false → Offends config ps i
  | duplicate {j : Fin ps.length} : config.duplicateLabels = .error → j < i →
      ps[j].key = ps[i].key → Offends config ps i

/-- The report of the declaration at `i`. If there are several things wrong with it, the reserved
label comes before the dashed one and that before the duplicate. -/
structure IsReport (config : Config) (ps : List Property) (i : Fin ps.length) (e : ParseError) :
    Prop where
  kind : e.kind =
    if ps[i].key = config.reservedLabel then .reservedLabel
    else if ps[i].label.isPlain = false then .qualifiedLabel
    else .duplicateLabel
  token : e.token = some ps[i].label.name
  location : e.location = ps[i].label.span.start
  span : e.span = some ps[i].label.span
  /-- The first declaration of a label that is declared again is named. -/
  first : e.kind = .duplicateLabel → ∃ j < i, ps[j].key = ps[i].key ∧
    (∀ k < j, ps[k].key ≠ ps[i].key) ∧ e.diagnostic.help =
      some s!"`{ps[i].key}` was first declared at {ps[j].label.span.start.text}."

/-- What is wrong with `p` behind the declarations `seen`. -/
inductive Fault (config : Config) (seen : List Property) (p : Property) : ParseError → Prop where
  | reserved : p.key = config.reservedLabel →
      Fault config seen p (.reservedLabel p.label.name p.label.span config.reservedLabel)
  | dashed : p.key ≠ config.reservedLabel → p.label.isPlain = false →
      Fault config seen p (.qualifiedLabel p.label.name p.label.span p.label.text)
  | duplicate {first : Property} : p.key ≠ config.reservedLabel → p.label.isPlain = true →
      config.duplicateLabels = .error → first ∈ seen → first.key = p.key →
      Fault config seen p
        (.duplicateLabel p.label.name p.label.span p.label.text first.label.span.start)

/-- A declaration is told of right away, or takes its place before the others. -/
theorem fault_or_seen (config : Config) (seen : List Property) (p : Property) :
    (∃ e, Fault config seen p e ∧ ∀ ps, faultAfter? config seen (p :: ps) = some e) ∨
      ∀ ps, faultAfter? config seen (p :: ps) = faultAfter? config (p :: seen) ps := by
  by_cases reserved : p.key = config.reservedLabel
  · have label : p.label.text = config.reservedLabel := reserved
    exact .inl ⟨_, .reserved reserved, fun ps => by simp only [faultAfter?, label, if_true]⟩
  have notReserved : p.label.text ≠ config.reservedLabel := reserved
  cases plain : p.label.isPlain with
  | false =>
    exact .inl ⟨_, .dashed reserved plain, fun ps => by simp [faultAfter?, notReserved, plain]⟩
  | true =>
    cases policy : config.duplicateLabels with
    | lastWins => exact .inr fun ps => by simp [faultAfter?, notReserved, plain, policy]
    | error =>
      cases found : seen.find? (·.key = p.key) with
      | some first =>
        have same : first.key = p.key := by simpa using List.find?_some found
        exact .inl ⟨_, .duplicate reserved plain policy (List.mem_of_find?_eq_some found) same,
          fun ps => by simp [faultAfter?, notReserved, plain, policy, found]⟩
      | none => exact .inr fun ps => by simp [faultAfter?, notReserved, plain, policy, found]

/-- In front of a declaration that is told of there is none that could be. -/
theorem exists_of_faultAfter? {seen : List Property} {e : ParseError}
    (h : faultAfter? config seen ps = some e) :
    ∃ before p behind, ps = before ++ p :: behind ∧ faultAfter? config seen before = none ∧
      Fault config (before.reverse ++ seen) p e := by
  induction ps generalizing seen with
  | nil => cases h
  | cons p ps ih =>
    rcases fault_or_seen config seen p with ⟨e', fault, eq⟩ | eq
    · rw [eq] at h
      cases h
      exact ⟨[], p, ps, rfl, rfl, fault⟩
    · rw [eq] at h
      obtain ⟨before, q, behind, rfl, inOrder, fault⟩ := ih h
      refine ⟨p :: before, q, behind, rfl, by rw [eq, inOrder], ?_⟩
      simpa using fault

theorem exists_of_fault? {e : ParseError} (h : fault? config ps = some e) :
    ∃ before p behind, ps = before ++ p :: behind ∧ fault? config before = none ∧
      Fault config before p e := by
  obtain ⟨before, p, behind, eq, inOrder, fault⟩ := exists_of_faultAfter? h
  refine ⟨before, p, behind, eq, inOrder, ?_⟩
  rw [List.append_nil] at fault
  cases fault with
  | reserved reserved => exact .reserved reserved
  | dashed notReserved dashed => exact .dashed notReserved dashed
  | duplicate notReserved plain policy seen same =>
    exact .duplicate notReserved plain policy (List.mem_reverse.1 seen) same

theorem not_offends_of_fault?_eq_none {before behind : List Property}
    (h : fault? config before = none) (eq : ps = before ++ behind) (i : Fin ps.length)
    (lt : i < before.length) : ¬ Offends config ps i := by
  subst eq
  obtain ⟨fit, distinct⟩ := fault?_eq_none_iff.1 h
  have at_i : (before ++ behind)[i] = before[i.val] := List.getElem_append_left lt
  obtain ⟨notReserved, plain⟩ := fit _ (List.getElem_mem lt)
  rintro (reserved | dashed | @⟨j, policy, earlier, same⟩)
  · exact notReserved (at_i ▸ reserved)
  · rw [at_i, plain] at dashed
    cases dashed
  · have lt' : j < before.length := Nat.lt_trans earlier lt
    have at_j : (before ++ behind)[j] = before[j.val] := List.getElem_append_left lt'
    have apart := distinct policy
    rw [List.Nodup, List.pairwise_map, List.pairwise_iff_getElem] at apart
    rw [at_i, at_j] at same
    exact apart j i lt' lt earlier same

/-- A report is about the declaration that offends, and names an earlier one of the same label. -/
theorem Fault.offends_isReport {before behind : List Property} {p : Property} {e : ParseError}
    (h : Fault config before p e) (inOrder : fault? config before = none)
    (eq : ps = before ++ p :: behind) {i : Fin ps.length} (place : i.val = before.length)
    (at_i : ps[i] = p) : Offends config ps i ∧ IsReport config ps i e := by
  have in_front : ∀ k (hk : k < before.length) (hk' : k < ps.length), ps[k] = before[k] := by
    intro k hk hk'
    subst eq
    exact List.getElem_append_left hk
  subst at_i
  cases h with
  | reserved reserved =>
    exact ⟨.reserved reserved, ⟨by rw [if_pos reserved]; rfl, rfl, rfl, rfl, nofun⟩⟩
  | dashed notReserved dashed =>
    exact ⟨.dashed dashed, ⟨by rw [if_neg notReserved, if_pos dashed]; rfl, rfl, rfl, rfl, nofun⟩⟩
  | duplicate notReserved plain policy seen same =>
    obtain ⟨n, lt, rfl⟩ := List.getElem_of_mem seen
    let j : Fin ps.length := ⟨n, lt.trans (place ▸ i.isLt)⟩
    have earlier : j < i := by
      rw [Fin.lt_def, place]
      exact lt
    have at_j : ps[j] = before[n] := in_front n lt j.isLt
    rw [← at_j] at same
    refine ⟨.duplicate policy earlier same, ⟨?_, rfl, rfl, rfl, ?_⟩⟩
    · rw [if_neg notReserved, if_neg (by rwa [Bool.not_eq_false])]
      rfl
    · refine fun _ => ⟨j, earlier, same, fun k hk again => ?_, by rw [at_j]; rfl⟩
      -- The declarations in front have distinct labels, so no other one comes before `j`.
      exact not_offends_of_fault?_eq_none inOrder eq j lt
        (.duplicate policy hk (again.trans same.symm))

/-- The fault is the first declaration that offends. -/
theorem exists_isReport_of_fault? {e : ParseError} (h : fault? config ps = some e) :
    ∃ i, Offends config ps i ∧ (∀ j < i, ¬ Offends config ps j) ∧ IsReport config ps i e := by
  obtain ⟨before, p, behind, eq, inOrder, fault⟩ := exists_of_fault? h
  let i : Fin ps.length := ⟨before.length, by simp [eq]⟩
  have at_i : ps[i] = p := by simp [i, eq]
  obtain ⟨offends, isReport⟩ := fault.offends_isReport inOrder eq (i := i) rfl at_i
  exact ⟨i, offends, fun j earlier => not_offends_of_fault?_eq_none inOrder eq j earlier, isReport⟩

theorem exists_fault?_iff : (∃ e, fault? config ps = some e) ↔ ∃ i, Offends config ps i := by
  constructor
  · rintro ⟨e, fault⟩
    obtain ⟨i, offends, -⟩ := exists_isReport_of_fault? fault
    exact ⟨i, offends⟩
  · rintro ⟨i, offends⟩
    cases fault : fault? config ps with
    | some e => exact ⟨e, rfl⟩
    | none =>
      exact absurd offends
        (not_offends_of_fault?_eq_none fault (List.append_nil ps).symm i i.isLt)

end PropertyList

/-- A list is rejected if and only if a declaration offends, and then for the first one that does.
The stream has no warning more. -/
theorem Parser.reports_of_propertyList {config : Config} {s s₁ : TokenStream} {ps : List Property}
    (reads : ReadsDeclarations s ps s₁) :
    ((∃ e s', (propertyList config).run s = .error (.rejected e) s') ↔
        ∃ i, PropertyList.Offends config ps i) ∧
      ∀ failure s', (propertyList config).run s = .error failure s' →
        ∃ e i, failure = .rejected e ∧ PropertyList.Offends config ps i ∧
          (∀ j < i, ¬ PropertyList.Offends config ps j) ∧ PropertyList.IsReport config ps i e ∧
          s'.warnings = s.warnings := by
  rw [reads.run_propertyList, ← PropertyList.exists_fault?_iff]
  cases fault : PropertyList.fault? config ps with
  | none => simp
  | some e =>
    refine ⟨by simp, fun failure s' h => ?_⟩
    cases h
    obtain ⟨i, offends, first, isReport⟩ := PropertyList.exists_isReport_of_fault? fault
    exact ⟨e, i, rfl, offends, first, isReport, reads.warnings_eq⟩

/-- Where the last one does not win, the last of the declarations offends. -/
theorem Parser.reports_of_propertyList_redeclared :
    ∃ ps s₁ e i s', ReadsDeclarations Redeclared.stream ps s₁ ∧
      (propertyList .standard).run Redeclared.stream = .error (.rejected e) s' ∧
      PropertyList.Offends .standard ps i ∧ (∀ j < i, ¬ PropertyList.Offends .standard ps j) ∧
      PropertyList.IsReport .standard ps i e ∧ s'.warnings = Redeclared.stream.warnings := by
  cases reads : EStateM.run (many nextProperty) Redeclared.stream with
  | error failure s' =>
    have isRead : (EStateM.run (many nextProperty) Redeclared.stream matches .ok ..) = true := by
      decide +kernel
    rw [reads] at isRead
    cases isRead
  | ok ps s₁ =>
    rw [many_nextProperty_iff] at reads
    cases run : (propertyList .standard).run Redeclared.stream with
    | ok l s' =>
      have fails : ((propertyList .standard).run Redeclared.stream matches .error ..) = true := by
        decide +kernel
      rw [run] at fails
      cases fails
    | error failure s' =>
      obtain ⟨e, i, rfl, rest⟩ := (reports_of_propertyList reads).2 failure s' run
      exact ⟨ps, s₁, e, i, s', reads, rfl, rest⟩

end ComponentMarkup
