import ComponentMarkup.Proofs.Lexing.Slices
import ComponentMarkup.Proofs.Parsing.Labels
import ComponentMarkup.Tag.Node

/-!
# Spans of trees

By the grammar a node has the span from its first token to its last. So a node below another one
lies in its span, and nodes side by side lie side by side, as long as the tokens do.

## Main definitions

* `Span.IsWithin`, `Span.IsApart` — how two spans lie.
* `Span.IsAmong` — a span that starts with one of some tokens and ends with one.
* `InOrder` — tokens one behind the other.
* `Node.Nested` — a tree with each node within the one above it.

## Main statements

* `Grammar.IsTypePath.covers`, `Grammar.IsLabel.covers`, `Grammar.IsExpression.covers` — the spans
  of nodes.
* `Grammar.pairwise_isApart_kept` — the spans of the properties that are kept.
* `Grammar.IsInterior.nested` — the tree of a tag.
* `Node.Nested.isWithin_of_mem_walk` — each node and its parent.
-/

namespace ComponentMarkup

open Source (Location Span)

/-- No token starts before the one in front of it has ended. -/
def InOrder (ts : List Token) : Prop := ts.Pairwise fun t u => t.stop.offset ≤ u.start.offset

namespace InOrder

variable {ts us : List Token}

theorem of_infix (h : InOrder us) (inside : ts <:+: us) : InOrder ts := h.sublist inside.sublist

theorem le (h : InOrder (ts ++ us)) : ∀ t ∈ ts, ∀ u ∈ us, t.stop.offset ≤ u.start.offset :=
  (List.pairwise_append.1 h).2.2

end InOrder

theorem Token.start_le_stop (t : Token) : t.start.offset ≤ t.stop.offset := by
  rw [offset_stop]
  omega

/-! ## How spans lie -/

namespace Source.Span

variable {x y z : Span} {ts us : List Token}

/-- By offsets, in any file. -/
structure IsWithin (x y : Span) : Prop where
  start : y.start.offset ≤ x.start.offset
  stop : x.stop.offset ≤ y.stop.offset

/-- One of the spans ends before the other one starts. -/
def IsApart (x y : Span) : Prop := x.stop.offset ≤ y.start.offset ∨ y.stop.offset ≤ x.start.offset

theorem IsApart.symm (h : x.IsApart y) : y.IsApart x := Or.symm h

/-- Where one of the tokens starts, up to where one of them ends. -/
structure IsAmong (x : Span) (ts : List Token) : Prop where
  start : ∃ t ∈ ts, x.start = t.start
  stop : ∃ t ∈ ts, x.stop = t.stop

theorem IsAmong.of_subset (h : x.IsAmong ts) (subset : ts ⊆ us) : x.IsAmong us := by
  obtain ⟨⟨t, ht, start⟩, ⟨u, hu, stop⟩⟩ := h
  exact ⟨⟨t, subset ht, start⟩, ⟨u, subset hu, stop⟩⟩

theorem Covers.isAmong (h : x.Covers ts) : x.IsAmong ts := by
  obtain ⟨⟨t, first, start⟩, ⟨u, last, stop⟩⟩ := h
  exact ⟨⟨t, List.mem_of_mem_head? first, start⟩, ⟨u, List.mem_of_getLast? last, stop⟩⟩

theorem covers_spanTo {t u : Token} (first : ts.head? = some t) (last : ts.getLast? = some u) :
    (t.spanTo u).Covers ts :=
  ⟨⟨t, first, rfl⟩, ⟨u, last, rfl⟩⟩

theorem Covers.contains (h : x.Covers ts) (order : InOrder ts) :
    ∀ t ∈ ts, x.start.offset ≤ t.start.offset ∧ t.stop.offset ≤ x.stop.offset := by
  obtain ⟨⟨a, first, start⟩, ⟨b, last, stop⟩⟩ := h
  intro t ht
  rw [start, stop]
  constructor
  · obtain ⟨more, rfl⟩ := List.head?_eq_some_iff.1 first
    rcases List.mem_cons.1 ht with rfl | ht
    · exact Nat.le_refl _
    · exact a.start_le_stop.trans ((List.pairwise_cons.1 order).1 t ht)
  · obtain ⟨front, rfl⟩ := List.getLast?_eq_some_iff.1 last
    rcases List.mem_append.1 ht with ht | ht
    · exact (order.le t ht b (List.mem_singleton_self b)).trans b.start_le_stop
    · rw [List.mem_singleton.1 ht]

theorem IsAmong.isWithin (h : x.IsAmong ts) (covers : y.Covers us) (order : InOrder us)
    (subset : ts ⊆ us) : x.IsWithin y := by
  obtain ⟨⟨t, ht, start⟩, ⟨u, hu, stop⟩⟩ := h
  exact ⟨start ▸ (covers.contains order t (subset ht)).1,
    stop ▸ (covers.contains order u (subset hu)).2⟩

theorem IsAmong.stop_le_start (hx : x.IsAmong ts) (hy : y.IsAmong us)
    (order : InOrder (ts ++ us)) : x.stop.offset ≤ y.start.offset := by
  obtain ⟨-, ⟨t, ht, stop⟩⟩ := hx
  obtain ⟨⟨u, hu, start⟩, -⟩ := hy
  rw [stop, start]
  exact order.le t ht u hu

theorem IsAround.isAmong {xs : List Span} (h : x.IsAround xs) (each : ∀ y ∈ xs, y.IsAmong ts) :
    x.IsAmong ts := by
  obtain ⟨⟨y, hy, start⟩, ⟨z, hz, stop⟩, -, -⟩ := h
  obtain ⟨t, ht, starts⟩ := (each y hy).start
  obtain ⟨u, hu, stops⟩ := (each z hz).stop
  exact ⟨⟨t, ht, start.trans starts⟩, ⟨u, hu, stop.trans stops⟩⟩

end Source.Span

/-! ## Spans of nodes -/

namespace Grammar

variable {ts : List Token}

theorem Repeated.getLast?_eq {α : Type} {G : List Token → α → Prop} {as : List α} {f : α → Token}
    (h : Repeated G ts as) (ends : ∀ {ts a}, G ts a → ts.getLast? = some (f a)) :
    ts.getLast? = as.getLast?.map f := by
  induction h with
  | nil => rfl
  | @cons ts us a as first _ ih =>
    rw [List.getLast?_append, ih, ends first, List.getLast?_cons]
    cases as.getLast? <;> rfl

/-- From the first token in front of a name, or from the name, to the last token behind it. -/
theorem Repeated.covers {α : Type} {G : List Token → α → Prop} {as : List α} {f : α → Token}
    (h : Repeated G ts as) (ends : ∀ {ts a}, G ts a → ts.getLast? = some (f a))
    (front : List Token) (name : Token) :
    ((front.head?.getD name).spanTo ((as.getLast?.map f).getD name)).Covers
      (front ++ name :: ts) := by
  refine Span.covers_spanTo ?_ ?_
  · cases front <;> rfl
  · rw [List.getLast?_append, List.getLast?_cons, h.getLast?_eq ends, Option.some_or]

theorem IsTypePath.covers {p : TypePath} (h : IsTypePath ts p) : p.span.Covers ts := by
  obtain @⟨colons, _, _, first, more, -, -, repeated⟩ := h
  have covers := repeated.covers (f := id) (fun h => by cases h; rfl) colons first
  rwa [Option.map_id_apply] at covers

theorem IsValuePath.covers {p : ValuePath} (h : IsValuePath ts p) : p.span.Covers ts := by
  obtain @⟨colons, _, _, first, more, -, -, repeated⟩ := h
  exact repeated.covers (fun h => by cases h <;> rfl) colons first

theorem IsLabel.covers {l : Label} (h : IsLabel ts l) : l.span.Covers ts := by
  obtain @⟨_, name, more, -, repeated⟩ := h
  have covers := repeated.covers (f := id) (fun h => by cases h; rfl) [] name
  rwa [Option.map_id_apply] at covers

theorem IsExpression.covers {e : Expression} (h : IsExpression ts e) : e.span.Covers ts := by
  cases h with
  | literal => exact Span.covers_spanTo rfl rfl
  | negative => exact Span.covers_spanTo rfl rfl
  | block => exact Span.covers_spanTo rfl List.getLast?_concat
  | path isPath => exact isPath.covers
  | @call us inside p opener closer isPath =>
    obtain ⟨t, first, start⟩ := isPath.covers.first
    refine ⟨⟨t, by rw [List.head?_append, first]; rfl, start⟩, ⟨closer, ?_, rfl⟩⟩
    rw [← List.append_assoc]
    exact List.getLast?_concat

/-- A comma behind a declaration is not in its span. -/
theorem IsDeclaration.exists_covers {p : Property} (h : IsDeclaration ts p) :
    ∃ ls es us, us <+: ts ∧ p.span.Covers us ∧ p.label.span.Covers ls ∧ ls <:+: us ∧
      IsExpression es p.value ∧ es <:+: us := by
  obtain @⟨ls, es, comma, label, assign, e, isLabel, -, isExpression, -⟩ := h
  obtain ⟨t, first, start⟩ := isLabel.covers.first
  obtain ⟨u, last, stop⟩ := isExpression.covers.last
  refine ⟨ls, es, ls ++ assign :: es, ⟨comma, by simp⟩, ⟨⟨t, ?_, start⟩, ⟨u, ?_, stop⟩⟩,
    isLabel.covers, (List.prefix_append ..).isInfix, isExpression, ⟨ls ++ [assign], [], by simp⟩⟩
  · rw [List.head?_append, first]
    rfl
  · rw [List.getLast?_append, List.getLast?_cons, last]
    rfl

theorem IsDeclaration.isAmong {p : Property} (h : IsDeclaration ts p) : p.span.IsAmong ts := by
  obtain ⟨-, -, us, inside, covers, -⟩ := h.exists_covers
  exact covers.isAmong.of_subset inside.subset

/-- Declarations stand side by side. -/
theorem pairwise_declarations {ps : List Property} (h : Repeated IsDeclaration ts ps)
    (order : InOrder ts) : ps.Pairwise fun p q => p.span.stop.offset ≤ q.span.start.offset := by
  induction h with
  | nil => exact .nil
  | @cons ts us p ps first rest ih =>
    have orderRest := order.of_infix (List.suffix_append ts us).isInfix
    refine List.pairwise_cons.2 ⟨fun q hq => ?_, ih orderRest⟩
    obtain ⟨vs, isDeclaration, inside⟩ := rest.exists_of_mem hq
    exact first.isAmong.stop_le_start (isDeclaration.isAmong.of_subset inside.subset) order

/-- Whatever their order, the properties that are kept stand side by side. -/
theorem pairwise_isApart_kept {ps : List Property} (h : Repeated IsDeclaration ts ps)
    (order : InOrder ts) (start : Location) :
    (kept start ps).properties.Pairwise fun p q => p.span.IsApart q.span := by
  have declared := (pairwise_declarations h order).imp fun {p q} le =>
    (.inl le : p.span.IsApart q.span)
  have winners := declared.sublist (PropertyList.winners_sublist ps)
  exact (List.mergeSort_perm ..).symm.pairwise winners fun h => h.symm

end Grammar

/-! ## Trees -/

theorem PropertySpec.span_node (spec : PropertySpec) : spec.node.span = spec.span := by
  cases spec <;> rfl

namespace Node

/-- The span of each node is within the span of the node above it. -/
inductive Nested : Node → Prop where
  | mk {n : Node} : (∀ c ∈ n.children, c.span.IsWithin n.span) → (∀ c ∈ n.children, Nested c) →
      Nested n

theorem Nested.isWithin_of_mem_walkBelow {n m parent : Node} (h : Nested n) {above : Option Node}
    (mem : (some parent, m) ∈ walkBelow above n) :
    above = some parent ∧ m = n ∨ m.span.IsWithin parent.span := by
  induction h generalizing above with
  | @mk n within _ ih =>
    rw [walkBelow, List.mem_cons] at mem
    rcases mem with eq | mem
    · cases eq
      exact .inl ⟨rfl, rfl⟩
    · obtain ⟨⟨c, hc⟩, -, mem⟩ := List.mem_flatMap.1 mem
      rcases ih c hc mem with ⟨eq, rfl⟩ | below
      · cases eq
        exact .inr (within m hc)
      · exact .inr below

theorem Nested.isWithin_of_mem_walk {n m parent : Node} (h : Nested n)
    (mem : (some parent, m) ∈ n.walk) : m.span.IsWithin parent.span := by
  rcases h.isWithin_of_mem_walkBelow mem with ⟨eq, -⟩ | below
  · cases eq
  · exact below

theorem nested_of_children {n : Node} (h : n.children = []) : Nested n :=
  .mk (by simp [h]) (by simp [h])

end Node

namespace Grammar

open Node (Nested nested_of_children)

variable {config : Config} {ts us : List Token}

theorem IsExpression.nested {e : Expression} (h : IsExpression ts e) (order : InOrder ts) :
    Nested (.expression e) := by
  have covers := h.covers
  cases h with
  | literal | negative | block | path => exact nested_of_children rfl
  | call isPath =>
    refine .mk ?_ ?_
    · simp only [Node.children, List.mem_singleton, forall_eq]
      exact isPath.covers.isAmong.isWithin covers order (List.subset_append_left ..)
    · simp only [Node.children, List.mem_singleton, forall_eq]
      exact nested_of_children rfl

theorem IsDeclaration.nested {p : Property} (h : IsDeclaration ts p) (order : InOrder ts) :
    Nested (.property p) := by
  obtain ⟨ls, es, us, inside, covers, label, inLabel, value, inValue⟩ := h.exists_covers
  have order' := order.of_infix inside.isInfix
  refine .mk ?_ ?_
  · simp only [Node.children, List.forall_mem_cons]
    exact ⟨label.isAmong.isWithin covers order' inLabel.subset,
      value.covers.isAmong.isWithin covers order' inValue.subset, List.forall_mem_nil _⟩
  · simp only [Node.children, List.forall_mem_cons]
    exact ⟨nested_of_children rfl, value.nested (order'.of_infix inValue), List.forall_mem_nil _⟩

theorem nested_kept {ps : List Property} (h : Repeated IsDeclaration ts ps) (order : InOrder ts)
    (start : Location) (some : ps ≠ []) : Nested (.propertyList (kept start ps)) := by
  have around := PropertyList.isAround_kept start some
  refine .mk ?_ ?_
  · simp only [Node.children, List.forall_mem_map]
    exact fun p hp => ⟨around.start_le _ (List.mem_map_of_mem hp),
      around.le_stop _ (List.mem_map_of_mem hp)⟩
  · simp only [Node.children, List.forall_mem_map]
    intro p hp
    obtain ⟨us, isDeclaration, inside⟩ := h.exists_of_mem (mem_of_mem_kept hp)
    exact isDeclaration.nested (order.of_infix inside)

theorem isAmong_kept {ps : List Property} (h : Repeated IsDeclaration ts ps) (start : Location)
    (some : ps ≠ []) : (kept start ps).span.IsAmong ts := by
  refine (PropertyList.isAround_kept start some).isAmong ?_
  simp only [List.forall_mem_map]
  intro p hp
  obtain ⟨us, isDeclaration, inside⟩ := h.exists_of_mem (mem_of_mem_kept hp)
  exact isDeclaration.isAmong.of_subset inside.subset

theorem Repeated.declarations {ps : List Property} (h : Repeated IsProperty ts ps) :
    Repeated IsDeclaration ts ps :=
  h.imp fun _ _ isProperty => (isProperty_iff.1 isProperty).1

theorem IsProperties.isAmong {spec : PropertySpec} (h : IsProperties config ts (some spec)) :
    spec.span.IsAmong ts := by
  cases h with
  | @delegate keyword name =>
    exact ⟨⟨keyword, by simp, rfl⟩, ⟨name, by simp, rfl⟩⟩
  | list repeated => exact isAmong_kept repeated.declarations _ (List.cons_ne_nil _ _)

theorem IsProperties.nested {spec : PropertySpec} (h : IsProperties config ts (some spec))
    (order : InOrder ts) : Nested spec.node := by
  cases h with
  | delegate => exact nested_of_children rfl
  | list repeated => exact nested_kept repeated.declarations order _ (List.cons_ne_nil _ _)

variable {span : Span} {c : ComponentTag}

/-- In a tag around its interior, each node lies within the one above it. -/
theorem IsInterior.nested (h : IsInterior config span ts c) (covers : span.Covers us)
    (order : InOrder us) (inside : ts <:+: us) : Nested (.component c) := by
  obtain @⟨path, colon, ts, p, spec, isPath, -, isSpec⟩ := h
  have inPath : path ⊆ us := fun t ht => inside.subset (by simp [ht])
  have inSpec : ts <:+: us := (List.suffix_append ..).isInfix.trans inside
  have pathWithin : p.span.IsWithin span := isPath.covers.isAmong.isWithin covers order inPath
  cases spec with
  | none =>
    refine .mk ?_ ?_
    · simp only [Node.children, Option.map_none, Option.toList_none, List.mem_singleton, forall_eq]
      exact pathWithin
    · simp only [Node.children, Option.map_none, Option.toList_none, List.mem_singleton, forall_eq]
      exact nested_of_children rfl
  | some spec =>
    refine .mk ?_ ?_
    · simp only [Node.children, Option.map_some, Option.toList_some, List.forall_mem_cons]
      refine ⟨pathWithin, ?_, List.forall_mem_nil _⟩
      rw [spec.span_node]
      exact isSpec.isAmong.isWithin covers order inSpec.subset
    · simp only [Node.children, Option.map_some, Option.toList_some, List.forall_mem_cons]
      exact ⟨nested_of_children rfl, isSpec.nested (order.of_infix inSpec), List.forall_mem_nil _⟩

theorem IsInterior.stop_le_start (h : IsInterior config span ts c) (order : InOrder ts) :
    ∀ spec ∈ c.properties, c.typePath.span.stop.offset ≤ spec.span.start.offset := by
  obtain @⟨path, colon, ts, p, spec, isPath, -, isSpec⟩ := h
  rintro spec ⟨⟩
  exact (isPath.covers.isAmong.of_subset (List.subset_append_left path colon)).stop_le_start
    isSpec.isAmong order

end Grammar

end ComponentMarkup
