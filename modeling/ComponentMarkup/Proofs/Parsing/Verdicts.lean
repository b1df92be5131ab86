import ComponentMarkup.Proofs.Parsing.Classifying
import Mathlib.Logic.ExistsUnique

/-!
# Verdicts on groups

Where a bracket opens a group, one of three things is true of the tokens from there on: the group is
closed, or a closer comes which is not the one that is due, or the tokens end first. Cursors and
streams tell the three apart, and so does the second look that a stream takes at what it could not
read.

## Main definitions

* `Leaves` — tokens behind which brackets are still open.
* `Verdict`, `IsVerdict` — the three cases, by the tokens alone.
* `Verdict.cursor?`, `Verdict.result` — what a cursor and a stream make of each.

## Main statements

* `Group.close_leaves` — what is left to be found behind open brackets.
* `Group.exists_leaves_of_close` — which brackets are open where a search for closers fails.
* `Group.existsUnique_isVerdict` — exactly one verdict is right.
* `Group.skips_by_verdict` — cursors and streams come to it.
* `Verdict.exists_result_mismatch`, `Verdict.exists_result_unclosed` — what the two errors tell of.
-/

namespace ComponentMarkup

variable {ts us : List Token} {t : Token} {d m : Mark} {due ds : List Mark}

theorem Balanced.append (h : Balanced ts) (h' : Balanced us) : Balanced (ts ++ us) := by
  induction h with
  | nil => exact h'
  | other opens closes _ ih => exact .other opens closes ih
  | group opens inside closes _ _ ih =>
    rw [List.append_assoc, List.cons_append]
    exact .group opens inside closes ih

/-- Some brackets stay open: balanced tokens come behind each of them, and then the next one. Their
closers are `due`, that of the innermost first. -/
inductive Leaves : List Token → List Mark → Prop where
  | nil : Leaves [] []
  | opened {ts us : List Token} {opener : Token} {m : Mark} {due : List Mark} :
      Leaves ts due → opener.opens? = some m → Balanced us → Leaves (ts ++ opener :: us) (m :: due)

namespace Leaves

/-! ## One token more -/

theorem opens (h : Leaves ts due) (opens : t.opens? = some m) : Leaves (ts ++ [t]) (m :: due) :=
  .opened h opens .nil

theorem balanced (h : Leaves ts (d :: ds)) (inside : Balanced us) :
    Leaves (ts ++ us) (d :: ds) := by
  cases h with
  | opened outer opens behind =>
    rw [List.append_assoc, List.cons_append]
    exact .opened outer opens (behind.append inside)

theorem closes (h : Leaves ts (m :: d :: ds)) (closes : t.closes? = some m) :
    Leaves (ts ++ [t]) (d :: ds) := by
  cases h with
  | opened outer opens behind =>
    rw [List.append_assoc]
    exact outer.balanced (.group opens behind closes .nil)

/-- The first token is the outermost of the brackets. -/
theorem exists_cons (h : Leaves ts (d :: ds)) : ∃ t us m, ts = t :: us ∧ t.opens? = some m := by
  induction ds generalizing ts d with
  | nil =>
    cases h with
    | opened outer opens =>
      cases outer
      exact ⟨_, _, _, rfl, opens⟩
  | cons e ds ih =>
    cases h with
    | opened outer =>
      obtain ⟨t, us, m, rfl, opens⟩ := ih outer
      exact ⟨t, _, m, rfl, opens⟩

end Leaves

namespace Group

/-! ## Open brackets -/

variable {e : GroupFault} {rest : List Token} {found : Token}

/-- Tokens with brackets left open are passed over, and the closers of these are due. -/
theorem close_leaves (h : Leaves us due) (rest : List Token) :
    close [] (us ++ rest) =
      (close due rest).map fun (inside, closer, rest) => (us ++ inside, closer, rest) := by
  induction h generalizing rest with
  | nil =>
    rw [List.nil_append]
    cases close [] rest <;> rfl
  | opened _ opens behind ih =>
    rw [List.append_assoc, ih, List.cons_append, close_open opens, close_balanced behind]
    cases close _ rest <;> simp [Except.map]

/-- Why a search for closers goes no further, where `d` is due: the tokens end, or another closer
comes. -/
inductive Blocked (d : Mark) : List Token → GroupFault → Prop where
  | unclosed : Blocked d [] .unclosed
  | mismatch {found : Token} {m : Mark} {behind : List Token} :
      found.closes? = some m → m ≠ d → Blocked d (found :: behind) (.mismatch d found)

theorem Blocked.close_eq (h : Blocked d ts e) (ds : List Mark) : close (d :: ds) ts = .error e := by
  cases h with
  | unclosed => rfl
  | mismatch closes wrong => simp [close, closes, wrong, Token.opens?_of_closes? closes]

/-- Where the search fails, brackets are open. One that is closed on the way leaves those around
it. -/
theorem exists_leaves_of_close (h : Leaves us (d :: ds)) (fails : close (d :: ds) ts = .error e) :
    ∃ more behind d ds, ts = more ++ behind ∧ Leaves (us ++ more) (d :: ds) ∧
      Blocked d behind e := by
  induction ts generalizing us d ds with
  | nil =>
    cases fails
    exact ⟨[], [], d, ds, rfl, by simpa using h, .unclosed⟩
  | cons t ts ih =>
    have step {d : Mark} {ds : List Mark} (h : Leaves (us ++ [t]) (d :: ds))
        (fails : close (d :: ds) ts = .error e) :
        ∃ more behind d ds, t :: ts = more ++ behind ∧ Leaves (us ++ more) (d :: ds) ∧
          Blocked d behind e := by
      obtain ⟨more, behind, d, ds, rfl, left, blocked⟩ := ih h fails
      exact ⟨t :: more, behind, d, ds, rfl, by simpa using left, blocked⟩
    cases opens : t.opens? with
    | some m =>
      rw [close_open opens, map_eq_error] at fails
      exact step (h.opens opens) fails
    | none =>
      cases closes : t.closes? with
      | none =>
        rw [close_other opens closes, map_eq_error] at fails
        exact step (h.balanced (.other opens closes .nil)) fails
      | some m =>
        by_cases right : m = d
        · subst right
          cases ds with
          | nil => simp [close_last closes] at fails
          | cons d ds =>
            rw [close_next closes, map_eq_error] at fails
            exact step (h.closes closes) fails
        · have blocked : Blocked d (t :: ts) (.mismatch d t) := .mismatch closes right
          rw [blocked.close_eq] at fails
          cases fails
          exact ⟨[], t :: ts, d, ds, rfl, by simpa using h, blocked⟩

/-- From a bracket on, reading fails behind the brackets that are open there. -/
theorem read_of_leaves (h : Leaves us (d :: ds)) (blocked : Blocked d rest e) :
    read (us ++ rest) = .error e := by
  have fails : close [] (us ++ rest) = .error e := by
    rw [close_leaves h, map_eq_error]
    exact blocked.close_eq ds
  obtain ⟨t, us, m, rfl, opens⟩ := h.exists_cons
  rw [List.cons_append, close_open opens, map_eq_error] at fails
  simp only [List.cons_append, read, opens, map_eq_error]
  exact fails

/-- Balanced tokens from an opening bracket on start with its group. -/
theorem exists_read_of_balanced (h : Balanced (t :: us)) (opens : t.opens? = some m)
    (rest : List Token) :
    ∃ g more, t :: us = g.tokens ++ more ∧
      read (t :: us ++ rest) = .ok (g, more ++ rest) ∧ Balanced g.tokens := by
  cases h with
  | other none => cases none.symm.trans opens
  | @group _ closer m inside more isOpener balanced closes _ =>
    refine ⟨⟨t, inside, closer⟩, more, by simp [tokens], ?_, ?_⟩
    · exact read_eq_ok_iff.2 ⟨by simp [tokens], balanced, m, isOpener, closes⟩
    · exact .group isOpener balanced closes .nil

end Group

/-! ## Verdicts -/

inductive Verdict where
  /-- The group is closed; `group` are its tokens. -/
  | closed (group : List Token)
  /-- Behind `passed` comes the closer `found`, while another one is due. -/
  | mismatch (passed : List Token) (due : Mark) (found : Token)
  | unclosed

/-- Which verdict is right. A group is closed where the tokens are balanced for the first time; a
closer is at fault only if that has not happened before. -/
inductive IsVerdict (ts : List Token) : Verdict → Prop where
  | closed {group : List Token} :
      group <+: ts → Balanced group → group ≠ [] →
      (∀ p, p <+: ts → Balanced p → p ≠ [] → group.length ≤ p.length) →
      IsVerdict ts (.closed group)
  | mismatch {passed behind : List Token} {due m : Mark} {others : List Mark} {found : Token} :
      ts = passed ++ found :: behind → Leaves passed (due :: others) →
      found.closes? = some m → m ≠ due → (∀ p, p <+: passed → Balanced p → p = []) →
      IsVerdict ts (.mismatch passed due found)
  | unclosed {due : Mark} {others : List Mark} :
      Leaves ts (due :: others) → (∀ p, p <+: ts → Balanced p → p = []) → IsVerdict ts .unclosed

namespace Verdict

/-- Behind the group, or nowhere. -/
def cursor? (c : Cursor) : Verdict → Option Cursor
  | closed group => some { c with index := c.index + group.length }
  | mismatch .. | unclosed => none

/-- The tokens of the group, or an error about the wrong closer or about the bracket `opener`. Only
a group that is closed moves the stream. -/
def result (s : TokenStream) (opener : Token) :
    Verdict → EStateM.Result Failure TokenStream (List Token)
  | closed group => .ok group { s with ahead := s.ahead.drop group.length }
  | mismatch _ due found => .error (.rejected (.unexpectedToken s!"`{due.char}`" found)) s
  | unclosed => .error (.rejected (.unclosedDelimiter opener s.stop)) s

/-- A closer that is not due is what the error is about, and where it is reported. -/
theorem exists_result_mismatch (s : TokenStream) (opener found : Token) (passed : List Token)
    (due : Mark) :
    ∃ e, (mismatch passed due found).result s opener = .error (.rejected e) s ∧
      e.kind = .unexpectedToken ∧ e.token = some found ∧ e.location = found.start :=
  ⟨_, rfl, by simp⟩

/-- A group that is not closed is told by its bracket, where the tokens end. -/
theorem exists_result_unclosed (s : TokenStream) (opener : Token) :
    ∃ e, unclosed.result s opener = .error (.rejected e) s ∧
      e.kind = .unclosedDelimiter ∧ e.token = some opener ∧ e.location = s.stop :=
  ⟨_, rfl, by simp⟩

/-- What is read where the verdict is right. -/
inductive Fits : Verdict → Except GroupFault (Group × List Token) → Prop where
  | closed (g : Group) (rest : List Token) : Fits (.closed g.tokens) (.ok (g, rest))
  | mismatch (passed : List Token) (due : Mark) (found : Token) :
      Fits (.mismatch passed due found) (.error (.mismatch due found))
  | unclosed : Fits .unclosed (.error .unclosed)

end Verdict

/-- No group is closed while brackets are open behind all tokens. -/
theorem Leaves.eq_nil_of_balanced {p : List Token} (h : Leaves ts (d :: ds)) (first : p <+: ts)
    (balanced : Balanced p) : p = [] := by
  obtain ⟨rest, rfl⟩ := first
  cases p with
  | nil => rfl
  | cons t p =>
    obtain ⟨_, _, m, eq, opens⟩ := h.exists_cons
    obtain ⟨rfl, -⟩ := List.cons.inj eq
    obtain ⟨g, more, -, read, -⟩ := Group.exists_read_of_balanced balanced opens rest
    have fails := Group.read_of_leaves h .unclosed
    rw [List.append_nil, read] at fails
    cases fails

/-- No more so with a closer at fault among them. -/
theorem Leaves.not_append {found : Token} {more : List Token} {d' : Mark} {ds' : List Mark}
    (h : Leaves ts (d :: ds)) (closes : found.closes? = some m) (wrong : m ≠ d) :
    ¬ Leaves (ts ++ found :: more) (d' :: ds') := by
  intro left
  have blocked : Group.Blocked d (found :: more) (.mismatch d found) := .mismatch closes wrong
  have stops := Group.read_of_leaves h blocked
  have ends := Group.read_of_leaves left .unclosed
  rw [List.append_nil, stops] at ends
  cases ends

namespace IsVerdict

variable {g : Group} {rest group passed : List Token} {found : Token} {v v' : Verdict}

/-! ## What is read -/

theorem fits (h : IsVerdict (t :: ts) v) (opens : t.opens? = some m) :
    v.Fits (Group.read (t :: ts)) := by
  cases h with
  | closed first balanced nonempty shortest =>
    obtain ⟨rest, whole⟩ := first
    obtain ⟨u, us, rfl⟩ := List.exists_cons_of_ne_nil nonempty
    obtain ⟨rfl, -⟩ := List.cons.inj whole
    obtain ⟨g, more, split, read, isGroup⟩ := Group.exists_read_of_balanced balanced opens rest
    have short := shortest g.tokens (by simp [← whole, split]) isGroup (by simp [Group.tokens])
    have length := congrArg List.length split
    rw [List.length_append] at length
    have none : more = [] := List.eq_nil_of_length_eq_zero (by omega)
    rw [← whole, read, split, none, List.append_nil]
    exact .closed g _
  | mismatch whole left closes wrong =>
    rw [whole, Group.read_of_leaves left (.mismatch closes wrong)]
    exact .mismatch ..
  | unclosed left =>
    rw [← List.append_nil (t :: ts), Group.read_of_leaves left .unclosed]
    exact .unclosed

theorem closed_of_read (h : Group.read ts = .ok (g, rest)) : IsVerdict ts (.closed g.tokens) := by
  obtain ⟨whole, inside, m, opens, closes⟩ := Group.read_eq_ok_iff.1 h
  refine .closed (by simp [whole]) (.group opens inside closes .nil) (by simp [Group.tokens]) ?_
  rintro p ⟨behind, split⟩ balanced nonempty
  obtain ⟨u, us, rfl⟩ := List.exists_cons_of_ne_nil nonempty
  obtain ⟨rfl, -⟩ := List.cons.inj (split.trans whole)
  obtain ⟨g', more, parts, read, -⟩ := Group.exists_read_of_balanced balanced opens behind
  rw [split, h] at read
  cases read
  simp [parts]

theorem exists_of_read_error {e : GroupFault} (opens : t.opens? = some m)
    (h : Group.read (t :: ts) = .error e) : ∃ v, IsVerdict (t :: ts) v := by
  simp only [Group.read, opens, map_eq_error] at h
  have first : Leaves [t] [m] := Leaves.nil.opens opens
  obtain ⟨more, behind, d, ds, rfl, left, blocked⟩ := Group.exists_leaves_of_close first h
  have none : ∀ p, p <+: [t] ++ more → Balanced p → p = [] := fun p => left.eq_nil_of_balanced
  cases blocked with
  | unclosed => exact ⟨_, .unclosed (by simpa using left) (by simpa using none)⟩
  | mismatch closes wrong => exact ⟨_, .mismatch rfl left closes wrong none⟩

/-! ## One verdict -/

/-- The closer at fault is the first one: with it among the tokens, none of the brackets in front
counts as open. -/
theorem passed_eq {passed' : List Token} {d' : Mark} {found' : Token}
    (h : IsVerdict ts (.mismatch passed d found))
    (h' : IsVerdict ts (.mismatch passed' d' found')) : passed = passed' := by
  cases h with
  | mismatch whole left closes wrong =>
    cases h' with
    | mismatch whole' left' closes' wrong' =>
      rcases List.append_eq_append_iff.1 (whole.symm.trans whole') with
        ⟨_ | ⟨u, more⟩, split, eq⟩ | ⟨_ | ⟨u, more⟩, split, eq⟩
      · simpa using split.symm
      · obtain ⟨rfl, -⟩ := List.cons.inj eq
        exact absurd (split ▸ left') (left.not_append closes wrong)
      · simpa using split
      · obtain ⟨rfl, -⟩ := List.cons.inj eq
        exact absurd (split ▸ left) (left'.not_append closes' wrong')

theorem eq (h : IsVerdict (t :: ts) v) (h' : IsVerdict (t :: ts) v') (opens : t.opens? = some m) :
    v = v' := by
  have fits := h.fits opens
  have fits' := h'.fits opens
  generalize Group.read (t :: ts) = r at fits fits'
  cases fits with
  | closed => cases fits'; rfl
  | mismatch => cases fits'; rw [h.passed_eq h']
  | unclosed => cases fits'; rfl

end IsVerdict

theorem Group.existsUnique_isVerdict (opens : t.opens? = some m) :
    ∃! v, IsVerdict (t :: ts) v := by
  have unique {v : Verdict} (h : IsVerdict (t :: ts) v) : ∃! v, IsVerdict (t :: ts) v :=
    ⟨v, h, fun _ h' => h'.eq h opens⟩
  cases read : Group.read (t :: ts) with
  | ok r => exact unique (IsVerdict.closed_of_read read)
  | error e =>
    obtain ⟨v, h⟩ := IsVerdict.exists_of_read_error opens read
    exact unique h

/-! ## Cursors and streams -/

theorem Cursor.index_add_length_ahead_le {c : Cursor} (h : c.ahead = t :: ts) :
    c.index + c.ahead.length ≤ c.stop := by
  obtain ⟨low, high, -⟩ := index_of_ahead h
  have here : c.isAstray = false := by simpa [isAstray] using low
  rw [ahead, here, if_neg Bool.false_ne_true, List.length_drop, List.length_take]
  simp only [rank]
  omega

theorem Cursor.before_of_append {c : Cursor} {rest : List Token} (h : c.ahead = t :: ts)
    (split : c.ahead = us ++ rest) : c.before rest = { c with index := c.index + us.length } := by
  have bound := index_add_length_ahead_le h
  have length := congrArg List.length split
  rw [List.length_append] at length
  simp only [before, advance, Cursor.mk.injEq, true_and, and_true]
  omega

theorem Parser.run_map {α β : Type} {f : α → β} {p : Parser α} {s : TokenStream} :
    (f <$> p).run s =
      match p.run s with
      | .ok a s' => .ok (f a) s'
      | .error e s' => .error e s' := by
  change EStateM.map f p s = _
  rw [EStateM.map, EStateM.run]
  cases p s <;> rfl

namespace Verdict

variable {v : Verdict} {c : Cursor} {s : TokenStream}

theorem afterGroup?_eq (h : v.Fits (Group.read c.ahead)) (ahead : c.ahead = t :: ts) :
    c.afterGroup? = v.cursor? c := by
  rw [Cursor.afterGroup?]
  generalize read : Group.read c.ahead = r at h
  cases h with
  | closed g rest =>
    have split := (Group.append_of_read read).symm
    simp [Except.toOption, cursor?, Cursor.before_of_append ahead split]
  | mismatch | unclosed => rfl

theorem run_group (h : v.Fits (Group.read s.ahead)) (ahead : s.ahead = t :: ts)
    (opens : t.opens? = some m) : (Group.tokens <$> Parser.group).run s = v.result s t := by
  rw [Parser.run_map, Parser.group, Parser.run_bind_of_ok Parser.run_get]
  have explained {e : GroupFault} (read : Group.read s.ahead = .error e) :
      Group.fault [] (t :: ts) = e := Group.fault_of_read (ahead ▸ read) opens
  generalize read : Group.read s.ahead = r at h
  cases h with
  | closed g rest =>
    have split := (Group.append_of_read read).symm
    simp only [result, split, List.drop_left]
    rfl
  | mismatch passed d found =>
    simp only [Parser.groupFailure, ahead, explained read]
    rfl
  | unclosed =>
    simp only [Parser.groupFailure, ahead, explained read]
    rfl

end Verdict

/-- Where a cursor stands at a bracket that opens a group, exactly one verdict on the tokens up to
the bound is right. The cursor comes to it, and so does a stream with these tokens ahead, which
stays where it is unless there is a group. A closer is never met while none is due: what cannot be
read is found to be at fault for the same reason when it is looked at anew. -/
theorem Group.skips_by_verdict {c : Cursor} {opener : Token} (here : c.token? = some opener)
    (opens : opener.opens? = some m) :
    (∃! v, IsVerdict c.ahead v) ∧
      ∀ v, IsVerdict c.ahead v →
        c.afterGroup? = v.cursor? c ∧
          (∀ s : TokenStream, s.ahead = c.ahead →
            (tokens <$> Parser.group).run s = v.result s opener) ∧
          ∀ e, read c.ahead = .error e → fault [] c.ahead = e ∧ ∀ found, e ≠ .stray found := by
  obtain ⟨ts, ahead⟩ := List.head?_eq_some_iff.1 here
  rw [ahead]
  refine ⟨existsUnique_isVerdict opens, fun v right => ?_⟩
  have fits := right.fits opens
  refine ⟨Verdict.afterGroup?_eq (ahead ▸ fits) ahead, fun s same => ?_, fun e fails => ?_⟩
  · exact Verdict.run_group (same ▸ fits) same opens
  · refine ⟨fault_of_read fails opens, ?_⟩
    rintro found rfl
    exact read_ne_stray fails

/-- `([a)]`: the round closer comes where the square one is due. -/
theorem Group.skips_by_verdict_crossed :
    let opener : Token := ⟨.mark .leftParen, "(", ⟨"<markup>", 1, 1, 0⟩⟩
    let inner : Token := ⟨.mark .leftBracket, "[", ⟨"<markup>", 1, 2, 1⟩⟩
    let name : Token := ⟨.identifier, "a", ⟨"<markup>", 1, 3, 2⟩⟩
    let found : Token := ⟨.mark .rightParen, ")", ⟨"<markup>", 1, 4, 3⟩⟩
    let last : Token := ⟨.mark .rightBracket, "]", ⟨"<markup>", 1, 5, 4⟩⟩
    let c : Cursor := .ofTokens [opener, inner, name, found, last]
    (∃! v, IsVerdict c.ahead v) ∧
      IsVerdict c.ahead (.mismatch [opener, inner, name] .rightBracket found) ∧
      c.afterGroup? = none := by
  intro opener inner name found last c
  have here : c.token? = some opener := by decide +kernel
  have right : IsVerdict c.ahead (.mismatch [opener, inner, name] .rightBracket found) := by
    have left : Leaves [opener, inner, name] [.rightBracket, .rightParen] :=
      ((Leaves.nil.opens (t := opener) rfl).opens (t := inner) rfl).balanced
        (.other (t := name) rfl rfl .nil)
    have whole : c.ahead = [opener, inner, name] ++ found :: [last] := by decide +kernel
    exact .mismatch whole left (m := .rightParen) rfl (by decide) fun p => left.eq_nil_of_balanced
  obtain ⟨one, decided⟩ := skips_by_verdict (m := .rightParen) here rfl
  exact ⟨one, right, (decided _ right).1⟩

end ComponentMarkup
