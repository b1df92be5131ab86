import ComponentMarkup.Text.Similar
import Mathlib.Data.List.Infix
import Mathlib.Order.Bounds.Basic

/-!
# The edit distance

The edit distance is computed row by row: for each beginning of one text, its distances from all
beginnings of the other one. A distance that is computed from the last characters of two texts is
the least number of edits between them, since a single edit changes no distance by more than one.

## Main definitions

* `Edit`, `Edits` — one edit, and so many edits one after the other.
* `distance` — the distance by recursion on both texts.
* `distances` — its values for the beginnings of a text.

## Main statements

* `edits_distance`, `distance_le_of_edits` — as many edits as the distance are enough, and fewer are
  not.
* `nextRow_distances`, `rows_distances` — a row is made of the row before, and so on to the last.
* `isLeast_editDistance` — the edit distance is the least number of edits, in both directions.
-/

namespace ComponentMarkup.Text

/-- A character is put in, taken out or replaced. -/
inductive Edit : List Char → List Char → Prop where
  | insert (u : List Char) (c : Char) (v : List Char) : Edit (u ++ v) (u ++ c :: v)
  | remove (u : List Char) (c : Char) (v : List Char) : Edit (u ++ c :: v) (u ++ v)
  | replace (u : List Char) (c d : Char) (v : List Char) : Edit (u ++ c :: v) (u ++ d :: v)

/-- So many edits lead from the one text to the other. -/
inductive Edits : Nat → List Char → List Char → Prop where
  | none (s : List Char) : Edits 0 s s
  | step {n : Nat} {s t u : List Char} : Edit s t → Edits n t u → Edits (n + 1) s u

namespace Edit

variable {s t : List Char}

theorem cons (h : Edit s t) (c : Char) : Edit (c :: s) (c :: t) := by
  cases h with
  | insert u d v => exact .insert (c :: u) d v
  | remove u d v => exact .remove (c :: u) d v
  | replace u d e v => exact .replace (c :: u) d e v

theorem symm (h : Edit s t) : Edit t s := by
  cases h with
  | insert u c v => exact .remove u c v
  | remove u c v => exact .insert u c v
  | replace u c d v => exact .replace u d c v

theorem reverse (h : Edit s t) : Edit s.reverse t.reverse := by
  cases h with
  | insert u c v => simpa using Edit.insert v.reverse c u.reverse
  | remove u c v => simpa using Edit.remove v.reverse c u.reverse
  | replace u c d v => simpa using Edit.replace v.reverse c d u.reverse

end Edit

namespace Edits

variable {n : Nat} {s t u : List Char}

theorem cons (h : Edits n s t) (c : Char) : Edits n (c :: s) (c :: t) := by
  induction h with
  | none => exact .none _
  | step first _ ih => exact .step (first.cons c) ih

theorem reverse (h : Edits n s t) : Edits n s.reverse t.reverse := by
  induction h with
  | none => exact .none _
  | step first _ ih => exact .step first.reverse ih

theorem reverse_iff : Edits n s.reverse t.reverse ↔ Edits n s t :=
  ⟨fun h => by simpa using h.reverse, Edits.reverse⟩

theorem snoc (h : Edits n s t) (last : Edit t u) : Edits (n + 1) s u := by
  induction h with
  | none => exact .step last (.none u)
  | step first _ ih => exact .step first (ih last)

theorem symm (h : Edits n s t) : Edits n t s := by
  induction h with
  | none => exact .none _
  | step first _ ih => exact ih.snoc first.symm

end Edits

/-! ## The distance by recursion -/

def distance : List Char → List Char → Nat
  | [], bs => bs.length
  | a :: as, [] => (a :: as).length
  | a :: as, b :: bs =>
    min (min (distance as (b :: bs) + 1) (distance (a :: as) bs + 1))
      (distance as bs + if a = b then 0 else 1)

section

variable (a b : Char) (as bs s t : List Char)

@[simp] theorem distance_nil_left : distance [] bs = bs.length := by rw [distance]

@[simp] theorem distance_nil_right : distance as [] = as.length := by cases as <;> rw [distance]

theorem distance_cons_cons : distance (a :: as) (b :: bs) =
    min (min (distance as (b :: bs) + 1) (distance (a :: as) bs + 1))
      (distance as bs + if a = b then 0 else 1) := by
  rw [distance]

theorem distance_cons_left_le : distance (a :: as) t ≤ distance as t + 1 := by
  cases t with
  | nil => simp
  | cons b bs => grind [distance_cons_cons]

theorem distance_cons_right_le : distance s (b :: bs) ≤ distance s bs + 1 := by
  cases s with
  | nil => simp
  | cons a as => grind [distance_cons_cons]

theorem distance_le_cons_left : distance as t ≤ distance (a :: as) t + 1 := by
  induction t with
  | nil => simp; omega
  | cons b bs ih =>
    have := distance_cons_right_le b bs as
    grind [distance_cons_cons]

theorem distance_replace_le : distance (a :: s) t ≤ distance (b :: s) t + 1 := by
  induction t with
  | nil => simp
  | cons c cs ih =>
    have := distance_cons_right_le c cs s
    grind [distance_cons_cons]

theorem distance_self : distance s s = 0 := by
  induction s with
  | nil => simp
  | cons a as ih => simp [distance_cons_cons, ih]

end

theorem Edits.removeAll (s : List Char) : Edits s.length s [] := by
  induction s with
  | nil => exact .none []
  | cons a as ih => exact .step (.remove [] a as) ih

theorem min_eq_or (x y z : Nat) :
    min (min x y) z = x ∨ min (min x y) z = y ∨ min (min x y) z = z := by omega

/-- As many edits as the distance are enough. The first edit is the one that the smallest of the
three numbers stands for. -/
theorem edits_distance (s t : List Char) : Edits (distance s t) s t := by
  fun_induction distance s t with
  | case1 bs => exact (Edits.removeAll bs).symm
  | case2 a as => exact .removeAll (a :: as)
  | case3 a as b bs remove insert replace =>
    have removed := Edits.step (.remove [] a as) remove
    have inserted := Edits.step (.insert [] b (a :: as)) (insert.cons b)
    have replaced : Edits (distance as bs + if a = b then 0 else 1) (a :: as) (b :: bs) := by
      split
      case isTrue same => exact same ▸ replace.cons a
      case isFalse => exact .step (.replace [] a b as) (replace.cons b)
    rcases min_eq_or (distance as (b :: bs) + 1) (distance (a :: as) bs + 1)
      (distance as bs + if a = b then 0 else 1) with eq | eq | eq <;> rw [eq]
    · exact removed
    · exact inserted
    · exact replaced

section

variable {s t : List Char}

theorem distance_cons_le_cons (h : ∀ w, distance s w ≤ distance t w + 1) (c : Char)
    (w : List Char) : distance (c :: s) w ≤ distance (c :: t) w + 1 := by
  induction w with
  | nil => simpa using h []
  | cons b bs ih =>
    have := h (b :: bs)
    have := h bs
    grind [distance_cons_cons]

/-- One edit makes a text nearer to any other one by one at the most. -/
theorem distance_le_of_edit (h : Edit s t) (w : List Char) :
    distance s w ≤ distance t w + 1 := by
  cases h with
  | insert u c v =>
    induction u generalizing w with
    | nil => exact distance_le_cons_left c v w
    | cons a u ih => exact distance_cons_le_cons ih a w
  | remove u c v =>
    induction u generalizing w with
    | nil => exact distance_cons_left_le c v w
    | cons a u ih => exact distance_cons_le_cons ih a w
  | replace u c d v =>
    induction u generalizing w with
    | nil => exact distance_replace_le c d v w
    | cons a u ih => exact distance_cons_le_cons ih a w

theorem distance_le_of_edits {n : Nat} (h : Edits n s t) : distance s t ≤ n := by
  induction h with
  | none s => rw [distance_self]
  | @step n s t u first _ ih =>
    calc distance s u ≤ distance t u + 1 := distance_le_of_edit first u
      _ ≤ n + 1 := Nat.add_le_add_right ih 1

end

theorem isLeast_distance (s t : List Char) : IsLeast {n | Edits n s t} (distance s t) :=
  ⟨edits_distance s t, fun _ => distance_le_of_edits⟩

/-! ## Rows -/

/-- The distances of `p` from `q` and from its continuations with the beginnings of `bs`. Both texts
have their last characters in front. -/
def distances (p q : List Char) : List Char → List Nat
  | [] => [distance p q]
  | b :: bs => distance p q :: distances p (b :: q) bs

section

variable (p q bs as : List Char)

theorem distances_eq_cons : distances p q bs = distance p q :: (distances p q bs).tail := by
  cases bs <;> rfl

theorem nextRow_distances (a : Char) :
    nextRow a (distance (a :: p) q) bs (distances p q bs) = (distances (a :: p) q bs).tail := by
  induction bs generalizing q with
  | nil => rfl
  | cons b bs ih =>
    have above := distances_eq_cons p (b :: q) bs
    rw [distances, above, nextRow, ← above, ← distance_cons_cons, ih, ← distances_eq_cons]
    rfl

theorem rows_distances :
    rows bs (distances p [] bs) p.length as = distances (as.reverse ++ p) [] bs := by
  induction as generalizing p with
  | nil => rfl
  | cons a as ih =>
    have first : p.length + 1 = distance (a :: p) [] := by simp
    rw [rows, first, nextRow_distances, ← distances_eq_cons, ← first]
    simpa using ih (a :: p)

theorem distances_nil_left : distances [] q bs = List.range' q.length (bs.length + 1) := by
  induction bs generalizing q with
  | nil => simp [distances]
  | cons b bs ih => rw [distances, ih, distance_nil_left, List.length_cons, List.range'_succ]; rfl

theorem getLast?_distances : (distances p q bs).getLast? = some (distance p (bs.reverse ++ q)) := by
  induction bs generalizing q with
  | nil => rfl
  | cons b bs ih => simp [distances, List.getLast?_cons, ih]

theorem editDistance_eq : editDistance as bs = distance as.reverse bs.reverse := by
  have start : List.range (bs.length + 1) = distances [] [] bs := by
    rw [distances_nil_left, List.range_eq_range']
    rfl
  have last := rows_distances [] bs as
  rw [List.length_nil, ← start] at last
  rw [editDistance, last, getLast?_distances, List.append_nil, List.append_nil]
  rfl

end

/-- The edit distance is the least number of edits that make the one text of the other. -/
theorem isLeast_editDistance (s t : List Char) :
    IsLeast {n | Edits n s t} (editDistance s t) := by
  have least := isLeast_distance s.reverse t.reverse
  simpa only [Edits.reverse_iff, ← editDistance_eq] using least

theorem editDistance_comm (s t : List Char) : editDistance s t = editDistance t s := by
  refine (isLeast_editDistance s t).unique ?_
  have least := isLeast_editDistance t s
  exact ⟨least.1.symm, fun n edits => least.2 (Edits.symm edits)⟩

end ComponentMarkup.Text
