import ComponentMarkup.Proofs.Text.EditDistance
import Mathlib.Data.List.Nodup

/-!
# The nearest candidates

## Main definitions

* `distanceFrom` — how far a candidate is from a word, letter case aside.
* `IsRanking` — the candidates within reach in the order that they are named in.

## Main statements

* `similar_eq` — the words that are named are the first of the candidates within reach.
* `similar_eq_take_of_nodup` — of distinct candidates, the three nearest are named.
-/

namespace ComponentMarkup.Text

def distanceFrom (word candidate : String) : Nat :=
  editDistance (lowercase word.toList) (lowercase candidate.toList)

/-- All candidates within reach, the nearest first, and those of one distance in alphabetical
order. -/
structure IsRanking (word : String) (candidates : List String) (reach : Int)
    (near : List String) : Prop where
  mem_iff : ∀ c, c ∈ near ↔ c ∈ candidates ∧ (distanceFrom word c : Int) ≤ reach
  ordered : near.Pairwise fun a b => distanceFrom word a < distanceFrom word b ∨
    distanceFrom word a = distanceFrom word b ∧ a < b

/-! ## The order of the candidates -/

theorem nearer_iff {a b : Nat × String} :
    nearer a b = true ↔ a.1 < b.1 ∨ a.1 = b.1 ∧ a.2 ≤ b.2 := by
  simp [nearer]

theorem nearer_trans {a b c : Nat × String} (hab : nearer a b = true) (hbc : nearer b c = true) :
    nearer a c = true := by
  rw [nearer_iff] at *
  rcases hab with hab | ⟨hab, le⟩ <;> rcases hbc with hbc | ⟨hbc, le'⟩
  · exact .inl (hab.trans hbc)
  · exact .inl (hbc ▸ hab)
  · exact .inl (hab ▸ hbc)
  · exact .inr ⟨hab.trans hbc, Std.le_trans le le'⟩

theorem nearer_total (a b : Nat × String) : (nearer a b || nearer b a) = true := by
  rw [Bool.or_eq_true, nearer_iff, nearer_iff]
  have := Std.le_total (a := a.2) (b := b.2)
  grind

section

variable (word : String) (candidates : List String) (reach : Int)

/-- All candidates within reach, the nearest first. -/
def ranking : List String :=
  (candidates.filter fun c => (distanceFrom word c : Int) ≤ reach).mergeSort fun a b =>
    nearer (distanceFrom word a, a) (distanceFrom word b, b)

theorem similar_eq : similar word candidates reach = (ranking word candidates reach).take 3 := by
  have sorted := List.map_mergeSort (f := fun c => (distanceFrom word c, c)) (s := nearer)
    (r := fun a b => nearer (distanceFrom word a, a) (distanceFrom word b, b))
    (l := candidates.filter fun c => (distanceFrom word c : Int) ≤ reach) fun _ _ _ _ => rfl
  have named : (ranking word candidates reach).map
      (Prod.snd ∘ fun c => (distanceFrom word c, c)) = ranking word candidates reach :=
    List.map_id _
  rw [← named, ← List.map_map, ranking, sorted, similar, List.filter_map]
  rfl

theorem mem_ranking_iff {c : String} :
    c ∈ ranking word candidates reach ↔
      c ∈ candidates ∧ (distanceFrom word c : Int) ≤ reach := by
  simp [ranking]

variable {candidates}

theorem mem_of_mem_similar {word : String} {reach : Int} {c : String}
    (h : c ∈ similar word candidates reach) : c ∈ candidates := by
  rw [similar_eq] at h
  exact ((mem_ranking_iff word candidates reach).1 (List.mem_of_mem_take h)).1

theorem take_similar : (similar word candidates reach).take 3 = similar word candidates reach := by
  rw [similar_eq, List.take_take, Nat.min_self]

/-- Where there are few candidates, all of them that are within reach are named. -/
theorem mem_similar_iff (few : candidates.length ≤ 3) {c : String} :
    c ∈ similar word candidates reach ↔
      c ∈ candidates ∧ (distanceFrom word c : Int) ≤ reach := by
  have short : (ranking word candidates reach).length ≤ 3 := by
    rw [ranking, List.length_mergeSort]
    exact (List.length_filter_le ..).trans few
  rw [similar_eq, List.take_of_length_le short, mem_ranking_iff]

theorem isRanking_of_nodup (distinct : candidates.Nodup) :
    IsRanking word candidates reach (ranking word candidates reach) where
  mem_iff _ := mem_ranking_iff word candidates reach
  ordered := by
    have sorted : (ranking word candidates reach).Pairwise fun a b =>
        nearer (distanceFrom word a, a) (distanceFrom word b, b) = true := by
      refine List.pairwise_mergeSort ?_ ?_ _
      · intro a b c
        exact nearer_trans
      · intro a b
        exact nearer_total ..
    have distinct' : (ranking word candidates reach).Nodup :=
      (List.mergeSort_perm ..).nodup_iff.2 (distinct.filter _)
    refine (sorted.and distinct').imp fun ⟨near, ne⟩ => ?_
    rw [nearer_iff] at near
    exact near.imp_right fun ⟨same, le⟩ => ⟨same, Std.lt_of_le_of_ne le ne⟩

/-- Of distinct candidates, those are named that take the fewest edits, at most three and none
beyond reach. The edits are counted in either direction. -/
theorem similar_eq_take_of_nodup (distinct : candidates.Nodup) :
    (∀ s t, IsLeast {n | Edits n s t} (editDistance s t) ∧
      IsLeast {n | Edits n s t} (editDistance t s)) ∧
    ∃ near, IsRanking word candidates reach near ∧
      similar word candidates reach = near.take 3 := by
  refine ⟨fun s t => ⟨isLeast_editDistance s t, ?_⟩, _, isRanking_of_nodup word reach distinct,
    similar_eq word candidates reach⟩
  rw [editDistance_comm]
  exact isLeast_editDistance s t

/-- Four candidates are within reach: one that differs in letter case only, and three that are one
edit away. -/
theorem similar_eq_take_of_nodup_four :
    ∃ near, IsRanking "Tap" ["map", "Tape", "nap", "tap", "Tulip"] 1 near ∧
      similar "Tap" ["map", "Tape", "nap", "tap", "Tulip"] 1 = near.take 3 := by
  have distinct : ["map", "Tape", "nap", "tap", "Tulip"].Nodup := by decide
  exact (similar_eq_take_of_nodup "Tap" 1 distinct).2

end

end ComponentMarkup.Text
