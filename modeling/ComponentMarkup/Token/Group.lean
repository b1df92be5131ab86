import ComponentMarkup.Result
import ComponentMarkup.Token.Basic

/-!
# Groups

A group runs from an opening bracket to the bracket that closes it. Groups nest, and all other
tokens inside are taken as they come.

## Main definitions

* `Group` — the two brackets and what stands between them.
* `Group.read` — the group at the start of a list of tokens.
* `Group.fault` — what is wrong with brackets that form no group.
-/

namespace ComponentMarkup

structure Group where
  opener : Token
  inside : List Token
  closer : Token
deriving DecidableEq

/-- Why brackets form no group. -/
inductive GroupFault where
  /-- The first token opens none. -/
  | notOpened
  /-- A closer stands where another one is due. -/
  | mismatch (due : Mark) (found : Token)
  /-- A closer stands where none is due. -/
  | stray (found : Token)
  /-- The tokens end first. -/
  | unclosed
deriving DecidableEq

namespace Group

def tokens (g : Group) : List Token := g.opener :: g.inside ++ [g.closer]

/-- Reads on to the last of the closers that are due, the next one first. -/
def close (due : List Mark) : List Token → Except GroupFault (List Token × Token × List Token)
  | [] => .error .unclosed
  | t :: ts =>
    let more := fun (inside, closer, rest) => (t :: inside, closer, rest)
    match t.opens? with
    | some m => (close (m :: due) ts).map more
    | none =>
      match t.closes? with
      | none => (close due ts).map more
      | some m =>
        match due with
        | [] => .error (.stray t)
        | d :: ds =>
          if m ≠ d then .error (.mismatch d t)
          else if ds.isEmpty then .ok ([], t, ts)
          else (close ds ts).map more

def read : List Token → Except GroupFault (Group × List Token)
  | [] => .error .notOpened
  | t :: ts =>
    match t.opens? with
    | none => .error .notOpened
    | some m => (close [m] ts).map fun (inside, closer, rest) => (⟨t, inside, closer⟩, rest)

/-- The first fault of the brackets while the closers `due` are to come. -/
def fault (due : List Mark) : List Token → GroupFault
  | [] => .unclosed
  | t :: ts =>
    match t.opens? with
    | some m => fault (m :: due) ts
    | none =>
      match t.closes? with
      | none => fault due ts
      | some m =>
        match due with
        | [] => .stray t
        | d :: ds => if m = d then fault ds ts else .mismatch d t

theorem append_of_close {due : List Mark} {ts inside rest : List Token} {closer : Token}
    (h : close due ts = .ok (inside, closer, rest)) : inside ++ closer :: rest = ts := by
  induction ts generalizing due inside with
  | nil => simp [close] at h
  | cons t ts ih =>
    simp only [close] at h
    split at h
    · simp only [map_eq_ok, Prod.mk.injEq, Prod.exists] at h
      obtain ⟨i, c, r, hr, rfl, rfl, rfl⟩ := h
      simp [ih hr]
    · split at h
      · simp only [map_eq_ok, Prod.mk.injEq, Prod.exists] at h
        obtain ⟨i, c, r, hr, rfl, rfl, rfl⟩ := h
        simp [ih hr]
      · split at h
        · cases h
        · split at h
          · cases h
          · split at h
            · cases h; rfl
            · simp only [map_eq_ok, Prod.mk.injEq, Prod.exists] at h
              obtain ⟨i, c, r, hr, rfl, rfl, rfl⟩ := h
              simp [ih hr]

theorem append_of_read {ts rest : List Token} {g : Group} (h : read ts = .ok (g, rest)) :
    g.tokens ++ rest = ts := by
  cases ts with
  | nil => simp [read] at h
  | cons t ts =>
    simp only [read] at h
    split at h
    · cases h
    · simp only [map_eq_ok, Prod.mk.injEq, Prod.exists] at h
      obtain ⟨i, c, r, hr, rfl, rfl⟩ := h
      simp [tokens, append_of_close hr]

theorem length_of_read {ts rest : List Token} {g : Group} (h : read ts = .ok (g, rest)) :
    rest.length < ts.length := by
  have := congrArg List.length (append_of_read h)
  simp only [tokens, List.length_append, List.length_cons] at this
  omega

end Group

end ComponentMarkup
