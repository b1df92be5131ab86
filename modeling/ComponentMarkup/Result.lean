/-!
# Results

When a result that is mapped is a success, and when it is a failure; and what comes of a list whose
elements all have a result.
-/

namespace ComponentMarkup

variable {ε α β : Type}

theorem map_eq_ok {f : α → β} {x : Except ε α} {b : β} :
    x.map f = .ok b ↔ ∃ a, x = .ok a ∧ f a = b := by
  cases x <;> simp [Except.map]

theorem map_eq_error {f : α → β} {x : Except ε α} {e : ε} :
    x.map f = .error e ↔ x = .error e := by
  cases x <;> simp [Except.map]

theorem mapError_eq_ok {ε' : Type} {f : ε → ε'} {x : Except ε α} {a : α} :
    x.mapError f = .ok a ↔ x = .ok a := by
  constructor
  · intro h
    cases x with
    | ok b =>
      cases h
      rfl
    | error e => cases h
  · rintro rfl
    rfl

theorem exists_mapM_eq_some (f : α → Option β) (as : List α) (h : ∀ a ∈ as, (f a).isSome = true) :
    ∃ bs, as.mapM f = some bs ∧ ∀ b ∈ bs, ∃ a ∈ as, f a = some b := by
  induction as with
  | nil => exact ⟨[], rfl, nofun⟩
  | cons a as ih =>
    obtain ⟨first, rest⟩ := List.forall_mem_cons.1 h
    obtain ⟨b, hb⟩ := Option.isSome_iff_exists.1 first
    obtain ⟨bs, hbs, origin⟩ := ih rest
    refine ⟨b :: bs, by simp [List.mapM_cons, hb, hbs], List.forall_mem_cons.2 ⟨?_, ?_⟩⟩
    · exact ⟨a, List.mem_cons_self, hb⟩
    · intro c hc
      obtain ⟨d, hd, eq⟩ := origin c hc
      exact ⟨d, List.mem_cons_of_mem a hd, eq⟩

theorem exists_of_any_join {x : Except ε (Option α)} {p : α → Bool}
    (h : x.toOption.join.any p = true) : ∃ a, x = .ok (some a) ∧ p a = true := by
  rcases x with e | (_ | a)
  · cases h
  · cases h
  · exact ⟨a, rfl, h⟩

end ComponentMarkup
