/-!
# Ranges of code points

A character class is a list of ranges, both ends included, in ascending order.

## Main definitions

* `Ranges.contains` — membership, read off the first range that does not end below the code point.
-/

namespace ComponentMarkup.Text

abbrev Ranges := List (Nat × Nat)

namespace Ranges

def contains : Ranges → Nat → Bool
  | [], _ => false
  | (lo, hi) :: rs, n => if n < lo then false else if n ≤ hi then true else contains rs n

/-- Every range is nonempty and ends below the next one. -/
def Ascending (rs : Ranges) : Prop :=
  rs.Pairwise (fun r s => r.2 < s.1) ∧ ∀ r ∈ rs, r.1 ≤ r.2

theorem contains_iff {rs : Ranges} (h : rs.Ascending) (n : Nat) :
    rs.contains n = true ↔ ∃ r ∈ rs, r.1 ≤ n ∧ n ≤ r.2 := by
  induction rs with
  | nil => simp [contains]
  | cons r rs ih =>
    obtain ⟨pairs, ends⟩ := h
    rw [List.pairwise_cons] at pairs
    have ih := ih ⟨pairs.2, fun s hs => ends s (List.mem_cons_of_mem _ hs)⟩
    simp only [contains, List.mem_cons, exists_eq_or_imp]
    split
    case isTrue below =>
      simp only [Bool.false_eq_true, false_iff, not_or, not_exists]
      refine ⟨fun h => by omega, fun s hs => ?_⟩
      have := pairs.1 s hs.1
      have := ends r List.mem_cons_self
      omega
    case isFalse notBelow =>
      split
      case isTrue within => exact iff_of_true rfl (.inl ⟨by omega, within⟩)
      case isFalse beyond =>
        rw [ih]
        exact ⟨.inr, fun h => h.resolve_left (fun h => beyond h.2)⟩

end Ranges

end ComponentMarkup.Text
