import ComponentMarkup.Proofs.Parsing.Grammar

/-!
# Groups are balanced

Reading a group finds exactly the balanced tokens between an opening bracket and the closing bracket
that belongs to it.

## Main statements

* `Group.close_balanced` — balanced tokens are passed over, whatever closers are due.
* `Group.read_eq_ok_iff` — what a group is.
* `Group.close_ne_stray`, `Group.fault_of_close` — how a search for a closer fails.
* `Group.read_ne_stray`, `Group.fault_of_read` — how reading a group fails.
-/

namespace ComponentMarkup

namespace Token

theorem isMark_iff {t : Token} {m : Mark} : t.isMark m = true ↔ t.mark? = some m := by
  simp only [isMark, decide_eq_true_eq, mark?]
  cases t.content <;> simp

/-- A token is at most one mark. -/
theorem isMark_of_isMark {t : Token} {m n : Mark} (h : t.isMark m = true) (ne : m ≠ n) :
    t.isMark n = false := by
  simp_all [isMark]

theorem closes?_eq_some_iff {t : Token} {m : Mark} :
    t.closes? = some m ↔ t.mark? = some m ∧ m.closes = true := by
  simp [closes?, Option.filter_eq_some_iff]

theorem opens?_of_isMark {t : Token} {m : Mark} (h : t.isMark m = true) : t.opens? = m.closer? := by
  rw [opens?, isMark_iff.1 h, Option.bind_some]

/-- No bracket both opens and closes. -/
theorem opens?_of_closes? {t : Token} {m : Mark} (h : t.closes? = some m) : t.opens? = none := by
  obtain ⟨mark, closes⟩ := closes?_eq_some_iff.1 h
  cases m <;> simp_all [Mark.closes, opens?, Mark.closer?]

end Token

namespace Group

variable {due ds : List Mark} {d m : Mark} {t opener closer : Token}
  {ts inside rest : List Token}

theorem close_open (h : t.opens? = some m) :
    close due (t :: ts) =
      (close (m :: due) ts).map fun (inside, closer, rest) => (t :: inside, closer, rest) := by
  simp [close, h]

theorem close_other (opens : t.opens? = none) (closes : t.closes? = none) :
    close due (t :: ts) =
      (close due ts).map fun (inside, closer, rest) => (t :: inside, closer, rest) := by
  simp [close, opens, closes]

theorem close_last (h : t.closes? = some d) : close [d] (t :: ts) = .ok ([], t, ts) := by
  simp [close, h, Token.opens?_of_closes? h]

theorem close_next (h : t.closes? = some m) :
    close (m :: d :: ds) (t :: ts) =
      (close (d :: ds) ts).map fun (inside, closer, rest) => (t :: inside, closer, rest) := by
  simp [close, h, Token.opens?_of_closes? h]

theorem close_balanced (h : Balanced ts) (d : Mark) (ds : List Mark) (rest : List Token) :
    close (d :: ds) (ts ++ rest) =
      (close (d :: ds) rest).map fun (inside, closer, rest) => (ts ++ inside, closer, rest) := by
  induction h generalizing d ds rest with
  | nil =>
    rw [List.nil_append]
    cases close (d :: ds) rest <;> rfl
  | other opens closes _ ih =>
    rw [List.cons_append, close_other opens closes, ih]
    cases close (d :: ds) rest <;> rfl
  | group opens _ closes _ ihInside ihRest =>
    rw [List.cons_append, List.cons_append, List.append_assoc, close_open opens, ihInside,
      List.cons_append, close_next closes, ihRest]
    cases close (d :: ds) rest <;> simp [Except.map]

/-- Up to the closer that is due next, the tokens are balanced. The induction is on their number,
since behind an inner group the search goes on for the same closer. -/
theorem exists_balanced_of_close {r : List Token × Token × List Token}
    (h : close (d :: ds) ts = .ok r) :
    ∃ inside closer rest, ts = inside ++ closer :: rest ∧ Balanced inside ∧
      closer.closes? = some d := by
  induction hn : ts.length using Nat.strongRecOn generalizing ts d ds r with
  | ind n ih =>
    subst hn
    cases ts with
    | nil => simp [close] at h
    | cons t ts =>
      cases opens : t.opens? with
      | some m =>
        rw [close_open opens] at h
        obtain ⟨r, hr, -⟩ := map_eq_ok.1 h
        obtain ⟨inside, closer, rest, rfl, balanced, closes⟩ := ih _ (by simp) hr rfl
        rw [close_balanced balanced, close_next closes] at hr
        obtain ⟨r, hr, -⟩ := map_eq_ok.1 hr
        obtain ⟨r, hr, -⟩ := map_eq_ok.1 hr
        obtain ⟨inside', closer', rest', rfl, balanced', closes'⟩ :=
          ih _ (by simp; omega) hr rfl
        exact ⟨t :: inside ++ closer :: inside', closer', rest', by simp,
          .group opens balanced closes balanced', closes'⟩
      | none =>
        cases closes : t.closes? with
        | none =>
          rw [close_other opens closes] at h
          obtain ⟨r, hr, -⟩ := map_eq_ok.1 h
          obtain ⟨inside, closer, rest, rfl, balanced, closes'⟩ := ih _ (by simp) hr rfl
          exact ⟨t :: inside, closer, rest, rfl, .other opens closes balanced, closes'⟩
        | some m =>
          by_cases same : m = d
          · exact ⟨[], t, ts, rfl, .nil, same ▸ closes⟩
          · simp [close, opens, closes, same] at h

theorem close_eq_ok_iff :
    close [d] ts = .ok (inside, closer, rest) ↔
      ts = inside ++ closer :: rest ∧ Balanced inside ∧ closer.closes? = some d := by
  constructor
  · intro h
    obtain ⟨inside', closer', rest', rfl, balanced, closes⟩ := exists_balanced_of_close h
    rw [close_balanced balanced, close_last closes] at h
    simp only [Except.map, Except.ok.injEq, Prod.mk.injEq, List.append_nil] at h
    obtain ⟨rfl, rfl, rfl⟩ := h
    exact ⟨rfl, balanced, closes⟩
  · rintro ⟨rfl, balanced, closes⟩
    rw [close_balanced balanced, close_last closes]
    simp [Except.map]

/-- While closers are due, a closer is at worst the wrong one. -/
theorem close_ne_stray : close (d :: ds) ts ≠ .error (.stray t) := by
  induction ts generalizing d ds with
  | nil => simp [close]
  | cons u ts ih =>
    cases opens : u.opens? with
    | some m =>
      rw [close_open opens, Ne, map_eq_error]
      exact ih
    | none =>
      cases closes : u.closes? with
      | none =>
        rw [close_other opens closes, Ne, map_eq_error]
        exact ih
      | some m =>
        by_cases same : m = d
        · subst same
          cases ds with
          | nil => simp [close_last closes]
          | cons d ds =>
            rw [close_next closes, Ne, map_eq_error]
            exact ih
        · simp [close, opens, closes, same]

/-- Brackets that are looked at anew after a failure show the same fault. -/
theorem fault_of_close {e : GroupFault} (h : close (d :: ds) ts = .error e) :
    fault (d :: ds) ts = e := by
  induction ts generalizing d ds with
  | nil =>
    cases h
    rfl
  | cons u ts ih =>
    cases opens : u.opens? with
    | some m =>
      rw [close_open opens, map_eq_error] at h
      simp only [fault, opens]
      exact ih h
    | none =>
      cases closes : u.closes? with
      | none =>
        rw [close_other opens closes, map_eq_error] at h
        simp only [fault, opens, closes]
        exact ih h
      | some m =>
        by_cases same : m = d
        · subst same
          cases ds with
          | nil => simp [close_last closes] at h
          | cons d ds =>
            rw [close_next closes, map_eq_error] at h
            simp only [fault, opens, closes, if_pos]
            exact ih h
        · simpa [close, fault, opens, closes, same] using h

/-- A group is never looked for in front of a closer while none is due. -/
theorem read_ne_stray : read ts ≠ .error (.stray t) := by
  cases ts with
  | nil => nofun
  | cons u ts =>
    cases opens : u.opens? with
    | none => simp [read, opens]
    | some m =>
      simp only [read, opens, Ne, map_eq_error]
      exact close_ne_stray

/-- Nor does it matter for the fault that nothing is due in front of the first bracket. -/
theorem fault_of_read {e : GroupFault} (h : read (t :: ts) = .error e)
    (opens : t.opens? = some m) : fault [] (t :: ts) = e := by
  simp only [read, opens, map_eq_error] at h
  simp only [fault, opens]
  exact fault_of_close h

theorem read_eq_ok_iff {g : Group} :
    read ts = .ok (g, rest) ↔
      ts = g.tokens ++ rest ∧ Balanced g.inside ∧
        ∃ m, g.opener.opens? = some m ∧ g.closer.closes? = some m := by
  obtain ⟨opener, inside, closer⟩ := g
  constructor
  · intro h
    cases ts with
    | nil => simp [read] at h
    | cons t ts =>
      cases opens : t.opens? with
      | none => simp [read, opens] at h
      | some m =>
        simp only [read, opens] at h
        obtain ⟨⟨i, c, r⟩, hr, eq⟩ := map_eq_ok.1 h
        cases eq
        obtain ⟨rfl, balanced, closes⟩ := close_eq_ok_iff.1 hr
        exact ⟨by simp [tokens], balanced, m, opens, closes⟩
  · rintro ⟨rfl, balanced, m, opens, closes⟩
    have found : close [m] (inside ++ closer :: rest) = .ok (inside, closer, rest) :=
      close_eq_ok_iff.2 ⟨rfl, balanced, closes⟩
    simp [read, tokens, opens, found, Except.map]

end Group

end ComponentMarkup
