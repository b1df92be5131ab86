import ComponentMarkup.Proofs.Emitted.Literals
import ComponentMarkup.Proofs.Emitted.Parts

/-!
# Reading emitted code

A line of code is read as far as its literals, comments and brackets go. Code is closed if every
literal ends, no comment starts and the brackets match.

## Main definitions

* `Code.Flaw` — what keeps code from being closed.
* `Code.flaw?` — the first flaw of a line.
* `Code.IsClosed` — a line without a flaw.
* `Code.Passes` — a text that is read to its end, with as many brackets open as before.

## Main statements

* `Code.passes_quote` — a written value is passed over.
* `Code.passes_of_composed` — composed code is passed over if its parts are.
-/

namespace ComponentMarkup

namespace Code

inductive Flaw where
  /-- A literal does not end. -/
  | openLiteral
  | comment
  /-- A closer stands where another one is due, or none. -/
  | wrongCloser
  /-- Closers are due at the end. -/
  | openBracket
deriving DecidableEq, Repr

/-- The closer of the bracket that a character opens. -/
def closer? : Char → Option Char
  | '(' => some ')'
  | '[' => some ']'
  | '{' => some '}'
  | _ => none

def closers : List Char := [')', ']', '}']

theorem length_of_close? {marks s body rest : List Char}
    (h : Text.Literal.close? marks s = some (body, rest)) : rest.length ≤ s.length := by
  fun_induction Text.Literal.close? marks s generalizing body with
  | case1 | case4 => cases h
  | case2 c cs ih =>
    obtain ⟨⟨body, rest⟩, closed, eq⟩ := Option.map_eq_some_iff.1 h
    cases eq
    have := ih closed
    grind
  | case3 =>
    cases h
    simp
  | case5 c cs _ _ _ ih =>
    obtain ⟨⟨body, rest⟩, closed, eq⟩ := Option.map_eq_some_iff.1 h
    cases eq
    have := ih closed
    grind

/-- A literal has an end of its own. -/
theorem length_of_split? {s body rest : List Char}
    (h : Text.Literal.split? s = some (body, rest)) : rest.length < s.length := by
  unfold Text.Literal.split? at h
  split at h
  · cases h
  · split at h
    · split at h
      · have := length_of_close? h
        grind
      · have := length_of_close? h
        grind
    · cases h

/-- The first flaw of a line while the closers `due` are to come, the next one first. -/
def flaw? (due : List Char) : List Char → Option Flaw
  | [] => if due.isEmpty then none else some .openBracket
  | c :: cs =>
    if Text.Literal.isMark c then
      match _h : Text.Literal.split? (c :: cs) with
      | none => some .openLiteral
      | some (_, rest) => flaw? due rest
    else if c = '#' then some .comment
    else
      match closer? c with
      | some d => flaw? (d :: due) cs
      | none =>
        if c ∈ closers then
          if due.head? = some c then flaw? due.tail cs else some .wrongCloser
        else flaw? due cs
termination_by s => s.length
decreasing_by
  · exact length_of_split? _h
  all_goals simp

/-- Every literal ends, no comment starts and the brackets match. -/
def IsClosed (s : List Char) : Prop := flaw? [] s = none

variable {due s t rest : List Char} {c d : Char}

/-! ## One step -/

theorem flaw?_literal {body : List Char} (h : Text.Literal.split? s = some (body, rest)) :
    flaw? due s = flaw? due rest := by
  cases s with
  | nil => cases h
  | cons c cs =>
    have mark : Text.Literal.isMark c = true := by
      unfold Text.Literal.split? at h
      grind
    rw [flaw?, if_pos mark]
    grind

theorem flaw?_inert (h : c ∉ telling) : flaw? due (c :: s) = flaw? due s := by
  have mark : Text.Literal.isMark c = false := by
    unfold Text.Literal.isMark
    grind [telling]
  have opener : closer? c = none := by
    unfold closer?
    split <;> simp [telling] at h ⊢
  have closer : c ∉ closers := fun mem => h ((by decide : closers ⊆ telling) mem)
  have sign : c ≠ '#' := by grind [telling]
  rw [flaw?, mark, if_neg Bool.false_ne_true, if_neg sign]
  simp only [opener, if_neg closer]

theorem flaw?_inert_append (h : Inert s) : flaw? due (s ++ rest) = flaw? due rest := by
  induction s with
  | nil => rfl
  | cons c s ih =>
    obtain ⟨first, more⟩ := List.forall_mem_cons.1 h
    rw [List.cons_append, flaw?_inert first, ih more]

theorem flaw?_opener (h : closer? c = some d) : flaw? due (c :: s) = flaw? (d :: due) s := by
  have plain : Text.Literal.isMark c = false ∧ c ≠ '#' := by
    unfold closer? at h
    split at h <;> simp [Text.Literal.isMark] at h ⊢
  rw [flaw?, plain.1, if_neg Bool.false_ne_true, if_neg plain.2]
  simp only [h]

theorem flaw?_closer (h : c ∈ closers) : flaw? (c :: due) (c :: s) = flaw? due s := by
  have plain : Text.Literal.isMark c = false ∧ c ≠ '#' ∧ closer? c = none := by
    simp only [closers, List.mem_cons, List.not_mem_nil, or_false] at h
    rcases h with rfl | rfl | rfl <;> decide
  obtain ⟨mark, sign, opener⟩ := plain
  rw [flaw?, mark, if_neg Bool.false_ne_true, if_neg sign]
  simp [opener, h]

/-! ## Texts that are passed over -/

/-- Behind the text the reading goes on as if the text were not there. Only an apostrophe may make
one literal with it. -/
def Passes (s : List Char) : Prop :=
  ∀ due rest, rest.head? ≠ some '\'' → flaw? due (s ++ rest) = flaw? due rest

theorem Passes.isClosed (h : Passes s) : IsClosed s := by
  have whole := h [] [] (by simp)
  rw [List.append_nil] at whole
  rw [IsClosed, whole, flaw?]
  rfl

theorem passes_of_inert (h : Inert s) : Passes s := fun _ _ _ => flaw?_inert_append h

theorem passes_quote (s : List Text.CodePoint) : Passes (Text.quote s) :=
  fun _ _ apart => flaw?_literal (Text.Literal.split?_quote (.inr apart))

theorem passes_of_composed {Part : List Char → Prop} (h : Composed Part s)
    (parts : ∀ p, Part p → Passes p) : Passes s := by
  induction h with
  | nil => exact fun _ _ _ => rfl
  | inert telling _ ih =>
    intro due rest apart
    rw [List.cons_append, flaw?_inert telling, ih due rest apart]
  | @part p s isPart next _ ih =>
    intro due rest apart
    have behind : (s ++ rest).head? ≠ some '\'' := by
      cases s with
      | nil => exact apart
      | cons c s => exact next
    rw [List.append_assoc, parts p isPart due _ behind, ih due rest apart]
  | @brackets s t _ _ ihInside ihBehind =>
    intro due rest apart
    calc flaw? due ('(' :: s ++ ')' :: t ++ rest)
        = flaw? (')' :: due) (s ++ (')' :: (t ++ rest))) := by
          rw [← flaw?_opener (show closer? '(' = some ')' from rfl)]
          simp
      _ = flaw? (')' :: due) (')' :: (t ++ rest)) := ihInside _ _ (by simp)
      _ = flaw? due (t ++ rest) := flaw?_closer (by decide)
      _ = flaw? due rest := ihBehind due rest apart

end Code

end ComponentMarkup
