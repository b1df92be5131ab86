import ComponentMarkup.Proofs.Schema.Histories

/-!
# Paths that a registry tells of

A registry tells the paths of its types and the names of its aliases, and is asked for them again.
What it is asked for is normalized first, so a path is found again if it is its own normal form. A
path loses just one double colon: of two in front, the second one stays.

## Main definitions

* `Path.IsRooted` — a path with a double colon in front.
* `Registry.Canonical` — what all paths and names of a registry have in common.
* `Registry.Retrieves` — how a type is found by the path that it is told with.

## Main statements

* `Path.normalize_normalize_eq_iff` — which paths are their own normal forms.
* `Registry.canonical_history` — a registry is canonical, whatever changes made it.
* `Registry.retrieves_of_mem_history` — what a registry holds is found again by its path, unless
  that has kept a double colon in front.
-/

namespace ComponentMarkup

/-! ## Normal forms -/

namespace Path

/-- A path with a double colon in front. -/
def IsRooted (path : String) : Prop := ∃ rest, path = "::" ++ rest

theorem isRooted_ofList_iff {cs : List Char} :
    IsRooted (.ofList cs) ↔ ∃ rest, cs = ':' :: ':' :: rest := by
  constructor
  · rintro ⟨rest, h⟩
    exact ⟨rest.toList, by simpa [← String.toList_inj] using h⟩
  · rintro ⟨rest, rfl⟩
    exact ⟨.ofList rest, by simp [← String.toList_inj]⟩

theorem isRooted_iff {path : String} :
    IsRooted path ↔ ∃ rest, path.toList = ':' :: ':' :: rest := by
  rw [← isRooted_ofList_iff, String.ofList_toList]

theorem dropColons_eq_self_iff {cs : List Char} :
    dropColons cs = cs ↔ ¬ ∃ rest, cs = ':' :: ':' :: rest := by
  fun_cases dropColons cs with
  | case1 rest =>
    refine iff_of_false (fun h => ?_) fun plain => plain ⟨rest, rfl⟩
    have := congrArg List.length h
    simp only [List.length_cons] at this
    omega
  | case2 cs other => simpa using other

theorem withoutBlanks_normalize (path : String) :
    Text.withoutBlanks (normalize path).toList = (normalize path).toList := by
  refine List.filter_eq_self.2 fun c hc => ?_
  rw [normalize, String.toList_ofList] at hc
  exact (List.mem_filter.1 (dropColons_subset _ hc)).2

theorem toList_normalize_normalize (path : String) :
    (normalize (normalize path)).toList = dropColons (normalize path).toList := by
  rw [normalize, withoutBlanks_normalize, String.toList_ofList]

/-- The normal form of a normal form is another one if there is a double colon in front of that. -/
theorem normalize_normalize_eq_iff {path : String} :
    normalize (normalize path) = normalize path ↔ ¬ IsRooted (normalize path) := by
  rw [← String.toList_inj, toList_normalize_normalize, dropColons_eq_self_iff, isRooted_iff]

theorem isRooted_normalize_iff {path : String} :
    IsRooted (normalize path) ↔
      ∃ rest, String.ofList (Text.withoutBlanks path.toList) = "::::" ++ rest := by
  have spelled : ∀ cs rest, String.ofList cs = "::::" ++ rest ↔
      cs = ':' :: ':' :: ':' :: ':' :: rest.toList := by
    simp [← String.toList_inj]
  simp only [normalize, isRooted_ofList_iff, spelled]
  generalize Text.withoutBlanks path.toList = cs
  fun_cases dropColons cs with
  | case1 cs =>
    constructor
    · rintro ⟨rest, rfl⟩
      exact ⟨.ofList rest, by rw [String.toList_ofList]⟩
    · rintro ⟨rest, h⟩
      exact ⟨rest.toList, by simpa using h⟩
  | case2 cs other =>
    constructor
    · rintro ⟨rest, rfl⟩
      exact absurd rfl (other rest)
    · rintro ⟨rest, rfl⟩
      exact absurd rfl (other _)

theorem IsSegment.not_isRooted {path : String} (h : IsSegment path) : ¬ IsRooted path := by
  rintro ⟨rest, rfl⟩
  exact h "" rest (by simp)

end Path

theorem Change.exists_normalize_of_info? {c : Change} {t : TypeInfo} (h : c.info? = some t) :
    ∃ path, t.path = Path.normalize path := by
  cases c with
  | addComponent path properties =>
    cases h
    exact ⟨path, rfl⟩
  | addType path kind =>
    obtain ⟨_, -, rfl⟩ := Option.map_eq_some_iff.1 h
    exact ⟨path, rfl⟩
  | addAlias => cases h

namespace Registry

variable {r : Registry}

/-! ## Paths and names of a registry -/

/-- No path is registered twice, all paths are normal forms, and so are the names of the aliases,
which are single segments. -/
structure Canonical (r : Registry) : Prop where
  distinct : (r.types.map TypeInfo.path).Nodup
  normal : ∀ t ∈ r.types, ∃ path, t.path = Path.normalize path
  segment : ∀ a ∈ r.aliases, Path.IsSegment a.1 ∧ Path.normalize a.1 = a.1

theorem canonical_empty : empty.Canonical where
  distinct := List.nodup_nil
  normal := by simp [empty]
  segment := by simp [empty]

theorem Canonical.after (h : r.Canonical) (c : Change) : (r.after c).Canonical := by
  have distinct := nodup_types_after h.distinct c
  cases r.outcome c with
  | failed _ _ after => rwa [after]
  | made admissible _ after =>
    refine ⟨distinct, ?_, ?_⟩ <;> rw [after]
    · intro t ht
      rcases List.mem_append.1 ht with ht | ht
      · exact h.normal t ht
      · exact Change.exists_normalize_of_info? (Option.mem_toList.1 ht)
    · intro a ha
      rcases List.mem_append.1 ha with ha | ha
      · cases c with
        | addComponent | addType => cases ha
        | addAlias name path =>
          obtain rfl := List.mem_singleton.1 ha
          exact ⟨admissible, Path.normalize_normalize_eq_iff.2 admissible.not_isRooted⟩
      · exact h.segment a ha

theorem Canonical.history (h : r.Canonical) (cs : List Change) : (r.history cs).Canonical := by
  induction cs generalizing r with
  | nil => exact h
  | cons c cs ih => exact ih (h.after c)

theorem canonical_history (cs : List Change) : (empty.history cs).Canonical :=
  canonical_empty.history cs

theorem mem_knownPaths_iff {path : String} :
    path ∈ r.knownPaths ↔
      (∃ t ∈ r.types, t.path = path) ∨ ∃ target, (path, target) ∈ r.aliases := by
  simp [knownPaths]

theorem type?_eq_some_iff (h : r.Canonical) {path : String} {t : TypeInfo} :
    r.type? path = some t ↔ t ∈ r.types ∧ t.path = path := by
  constructor
  · intro found
    exact ⟨List.mem_of_find?_eq_some found, by simpa using List.find?_some found⟩
  · rintro ⟨ht, rfl⟩
    exact type?_of_mem h.distinct ht

/-! ## Types that are found again -/

/-- A type is told with its path, and found by it if no double colon is in front. Otherwise it is
found just if the path without that is not registered and is made the path again by an alias. -/
structure Retrieves (r : Registry) (t : TypeInfo) : Prop where
  known : t.path ∈ r.knownPaths
  plain : ¬ Path.IsRooted t.path → r.lookup? t.path = some t
  rooted : Path.IsRooted t.path →
    ∃ head rest, Path.IsFirst (Path.normalize t.path) head rest ∧
      (r.lookup? t.path = some t ↔ r.type? (Path.normalize t.path) = none ∧
        ∃ target, r.aliases.lookup head = some target ∧ t.path = target ++ rest)

theorem lookup?_path_of_not_isRooted (h : r.Canonical) {t : TypeInfo} (ht : t ∈ r.types)
    (plain : ¬ Path.IsRooted t.path) : r.lookup? t.path = some t := by
  obtain ⟨path, spelled⟩ := h.normal t ht
  have normal : Path.normalize t.path = t.path := by
    rw [spelled] at plain ⊢
    exact Path.normalize_normalize_eq_iff.2 plain
  apply lookup?_of_type?
  rw [normal]
  exact type?_of_mem h.distinct ht

theorem retrieves_of_mem (h : r.Canonical) {t : TypeInfo} (ht : t ∈ r.types) : r.Retrieves t := by
  refine ⟨mem_knownPaths_iff.2 (.inl ⟨t, ht, rfl⟩), lookup?_path_of_not_isRooted h ht, ?_⟩
  intro rooted
  cases found : r.type? (Path.normalize t.path) with
  | some u =>
    have other : t.path ≠ Path.normalize t.path := by
      obtain ⟨path, spelled⟩ := h.normal t ht
      rw [spelled] at rooted ⊢
      exact fun same => Path.normalize_normalize_eq_iff.1 same.symm rooted
    refine ⟨_, _, Path.isFirst_partition _, ?_⟩
    rw [lookup?_of_type? found]
    constructor
    · rintro ⟨⟩
      exact absurd ((type?_eq_some_iff h).1 found).2 other
    · rintro ⟨⟨⟩, -⟩
  | none =>
    obtain ⟨head, rest, isFirst, replaced⟩ := lookup?_of_type?_eq_none found
    refine ⟨head, rest, isFirst, ?_⟩
    simp [replaced, Option.bind_eq_some_iff, type?_eq_some_iff h, ht]

/-- Of the normal forms, those are normalized to themselves that no double colon is in front of,
which comes of two in front of the path. By such a path, what a registry holds is found again. -/
theorem retrieves_of_mem_history (path : String) (cs : List Change) :
    (Path.normalize (Path.normalize path) = Path.normalize path ↔
      ¬ Path.IsRooted (Path.normalize path)) ∧
    (Path.IsRooted (Path.normalize path) ↔
      ∃ rest, String.ofList (Text.withoutBlanks path.toList) = "::::" ++ rest) ∧
    ∀ t ∈ (empty.history cs).types, (empty.history cs).Retrieves t :=
  ⟨Path.normalize_normalize_eq_iff, Path.isRooted_normalize_iff,
    fun _ ht => retrieves_of_mem (canonical_history cs) ht⟩

/-- One double colon in front is not kept, but the second one is. -/
theorem retrieves_of_mem_history_twice :
    (empty.history [.addType ":: a" .plain, .addType "::::a" .plain]).types =
      [⟨"a", .plain⟩, ⟨"::a", .plain⟩] ∧
    ∀ t ∈ [⟨"a", .plain⟩, ⟨"::a", .plain⟩],
      (empty.history [.addType ":: a" .plain, .addType "::::a" .plain]).Retrieves t := by
  have types : (empty.history [.addType ":: a" .plain, .addType "::::a" .plain]).types =
      [⟨"a", .plain⟩, ⟨"::a", .plain⟩] := by decide
  exact ⟨types, types ▸ (retrieves_of_mem_history "::::a" _).2.2⟩

/-- A normal form that is not its own, and a type that is not found by the path it is told with. -/
theorem not_retrieved_of_two_colons :
    Path.normalize (Path.normalize "::::a") ≠ Path.normalize "::::a" ∧
    Path.IsRooted (Path.normalize "::::a") ∧
    let r := empty.history [.addType "::::a" .plain]
    ⟨"::a", .plain⟩ ∈ r.types ∧ "::a" ∈ r.knownPaths ∧ r.lookup? "::a" = none := by
  refine ⟨by decide, ⟨"a", by decide⟩, by decide, ?_, by decide⟩
  exact mem_knownPaths_iff.2 (.inl ⟨⟨"::a", .plain⟩, by decide, rfl⟩)

end Registry

end ComponentMarkup
