import ComponentMarkup.Proofs.Parsing.Paths
import ComponentMarkup.Proofs.Parsing.Suffixes

/-!
# Where a tag ends

The search for the end of a tag stops exactly at the end of its interior. An interior is stated as a
grammar of its own, with the tokens behind it in view: whether a dash or a slash stands for itself
depends on the token that follows it, be that the last of all.

## Main definitions

* `IsInside` — tokens inside of a tag, with what stands behind them.
* `IsSuffix` — an interior with the `>` or `/>` behind it.

## Main statements

* `Suffix.scan_of_isInside` — the search passes over an interior.
* `Suffix.exists_isInside_of_scan` — what it passes over is an interior.
* `Parser.suffix_ok_iff` — when it finds an end, and which one.
-/

namespace ComponentMarkup

open Source (Location)

/-- Tokens in a tag, where `depth` pairs of angle brackets are open inside of it, and `rest` behind
them. Closing brackets of groups stand where they like. -/
inductive IsInside : (depth : Nat) → (ts rest : List Token) → Prop where
  | nil {depth : Nat} {rest : List Token} : IsInside depth [] rest
  | group {depth : Nat} {opener closer : Token} {m : Mark} {inside ts rest : List Token} :
      opener.opens? = some m → Balanced inside → closer.closes? = some m →
      IsInside depth ts rest → IsInside depth (opener :: inside ++ closer :: ts) rest
  | arrow {depth : Nat} {dash head : Token} {ts rest : List Token} :
      dash.isMark .minus = true → head.isMark .greaterThan = true →
      IsInside depth ts rest → IsInside depth (dash :: head :: ts) rest
  | pair {depth : Nat} {opener closer : Token} {inside ts rest : List Token} :
      opener.isMark .lessThan = true → IsInside (depth + 1) inside (closer :: (ts ++ rest)) →
      closer.isMark .greaterThan = true → IsInside depth ts rest →
      IsInside depth (opener :: inside ++ closer :: ts) rest
  | single {depth : Nat} {t : Token} {ts rest : List Token} :
      t.opens? = none → t.isMark .lessThan = false → t.isMark .greaterThan = false →
      (t.isMark .minus = true → ¬ MeetsCloser (ts ++ rest)) →
      (depth = 0 → t.isMark .slash = true → ¬ MeetsCloser (ts ++ rest)) →
      IsInside depth ts rest → IsInside depth (t :: ts) rest

/-- Tokens that start with the rest of a tag: its interior and what closes it, `>` or `/>`. -/
inductive IsSuffix : List Token → Suffix → (rest : List Token) → Prop where
  | opening {interior rest : List Token} {closer : Token} :
      IsInside 0 interior (closer :: rest) → closer.isMark .greaterThan = true →
      IsSuffix (interior ++ closer :: rest) ⟨interior, none, closer⟩ rest
  | selfClosing {interior rest : List Token} {slash closer : Token} :
      IsInside 0 interior (slash :: closer :: rest) → slash.isMark .slash = true →
      closer.isMark .greaterThan = true →
      IsSuffix (interior ++ slash :: closer :: rest) ⟨interior, some slash, closer⟩ rest

namespace Suffix

variable {stop : Location} {depth : Nat} {opener closer : Token} {ts inside rest : List Token}
  {m : Mark}

@[simp] theorem prepend_prepend (us vs : List Token) (r : Suffix × List Token) :
    prepend us (prepend vs r) = prepend (us ++ vs) r := by
  simp [prepend]

theorem map_prepend_prepend (us vs : List Token) (r : Except Failure (Suffix × List Token)) :
    (r.map (prepend vs)).map (prepend us) = r.map (prepend (us ++ vs)) := by
  cases r <;> simp [Except.map]

/-- The step over a group, which is told by its brackets. -/
theorem passes_group (opens : opener.opens? = some m) (balanced : Balanced inside)
    (closes : closer.closes? = some m) :
    Passes depth (opener :: inside ++ closer :: rest) (opener :: inside ++ [closer]) depth rest := by
  have read : Group.read (opener :: (inside ++ closer :: rest)) =
      .ok (⟨opener, inside, closer⟩, rest) :=
    Group.read_eq_ok_iff.2 ⟨by simp [Group.tokens], balanced, m, opens, closes⟩
  exact .group (by rw [opens, Option.isSome_some]) read

theorem scan_of_isInside (h : IsInside depth ts rest) :
    scan stop depth (ts ++ rest) = (scan stop depth rest).map (prepend ts) := by
  induction h with
  | nil =>
    rw [List.nil_append]
    cases scan stop _ _ <;> rfl
  | @group depth opener closer m inside ts rest opens balanced closes _ ih =>
    have behind : opener :: inside ++ closer :: ts ++ rest =
        opener :: inside ++ closer :: (ts ++ rest) := by simp
    rw [behind, (passes_group opens balanced closes).scan_eq, ih, map_prepend_prepend]
    simp
  | arrow dash head _ ih =>
    rw [List.cons_append, List.cons_append, (Passes.arrow dash head).scan_eq, ih,
      map_prepend_prepend]
    rfl
  | @pair depth opener closer inside ts rest opens _ closes _ ihInside ih =>
    have behind : opener :: inside ++ closer :: ts ++ rest =
        opener :: (inside ++ closer :: (ts ++ rest)) := by simp
    rw [behind, (Passes.opener opens).scan_eq, ihInside, (Passes.closer closes).scan_eq, ih,
      map_prepend_prepend, map_prepend_prepend, map_prepend_prepend]
    simp
  | single opens notOpener notCloser dash slash _ ih =>
    rw [List.cons_append, (Passes.single opens notOpener notCloser dash slash).scan_eq, ih,
      map_prepend_prepend]
    rfl

/-- Where a search that finds the end of the tag leaves the pairs of angle brackets: at the `>` of
the innermost one, or at the end of the tag if none is open. -/
inductive Halts : (depth : Nat) → List Token → Prop where
  | closer {depth : Nat} {t : Token} {ts : List Token} :
      t.isMark .greaterThan = true → Halts depth (t :: ts)
  | selfClosing {slash closer : Token} {ts : List Token} :
      slash.isMark .slash = true → closer.isMark .greaterThan = true →
      Halts 0 (slash :: closer :: ts)

/-- The induction is on the number of tokens, since behind an inner pair of angle brackets the
search goes on at the depth where it came to that pair. -/
theorem exists_isInside_of_scan {x : Suffix × List Token} (h : scan stop depth ts = .ok x) :
    ∃ inside rest, ts = inside ++ rest ∧ IsInside depth inside rest ∧ Halts depth rest := by
  induction hn : ts.length using Nat.strongRecOn generalizing ts depth x with
  | ind n ih =>
    subst hn
    have scans := scans_iff.2 h
    generalize found : Except.ok x = r at scans
    cases scans with
    | ends ends =>
      cases ends with
      | opening isCloser => exact ⟨[], _, rfl, .nil, .closer isCloser⟩
      | selfClosing isSlash isCloser => exact ⟨[], _, rfl, .nil, .selfClosing isSlash isCloser⟩
      | noTokens | noGroup => cases found
    | passes step scans =>
      obtain ⟨y, rfl, -⟩ := map_eq_ok.1 found.symm
      have found := scans_iff.1 scans
      obtain ⟨inside, rest, rfl, isInside, halts⟩ := ih _ step.length_lt found rfl
      cases step with
      | group _ read =>
        obtain ⟨eq, balanced, m, opens, closes⟩ := Group.read_eq_ok_iff.1 read
        exact ⟨_, rest, by simpa [Group.tokens] using eq,
          .group opens balanced closes isInside, halts⟩
      | closer isCloser => exact ⟨[], _, rfl, .nil, .closer isCloser⟩
      | opener isOpener =>
        cases halts with
        | closer isCloser =>
          rw [scan_of_isInside isInside, (Passes.closer isCloser).scan_eq] at found
          obtain ⟨y, hy, -⟩ := map_eq_ok.1 found
          obtain ⟨y, hy, -⟩ := map_eq_ok.1 hy
          obtain ⟨inside', rest', rfl, isInside', halts⟩ := ih _ (by grind) hy rfl
          exact ⟨_, rest', by simp, .pair isOpener isInside isCloser isInside', halts⟩
      | arrow isDash isHead => exact ⟨_, rest, rfl, .arrow isDash isHead isInside, halts⟩
      | single opens notOpener notCloser dash slash =>
        exact ⟨_, rest, rfl, .single opens notOpener notCloser dash slash isInside, halts⟩

theorem scan_eq_ok_iff {s : Suffix} : scan stop 0 ts = .ok (s, rest) ↔ IsSuffix ts s rest := by
  constructor
  · intro h
    obtain ⟨inside, rest', rfl, isInside, halts⟩ := exists_isInside_of_scan h
    rw [scan_of_isInside isInside] at h
    cases halts with
    | closer isCloser =>
      rw [(Ends.opening isCloser).scan_eq] at h
      simp only [Except.map, prepend, List.append_nil] at h
      cases h
      exact .opening isInside isCloser
    | selfClosing isSlash isCloser =>
      rw [(Ends.selfClosing isSlash isCloser).scan_eq] at h
      simp only [Except.map, prepend, List.append_nil] at h
      cases h
      exact .selfClosing isInside isSlash isCloser
  · intro h
    cases h with
    | opening isInside isCloser =>
      rw [scan_of_isInside isInside, (Ends.opening isCloser).scan_eq]
      simp [Except.map, prepend]
    | selfClosing isInside isSlash isCloser =>
      rw [scan_of_isInside isInside, (Ends.selfClosing isSlash isCloser).scan_eq]
      simp [Except.map, prepend]

end Suffix

namespace Parser

variable {s s' : TokenStream}

theorem suffix_eq_ok_iff {x : Suffix} :
    suffix.run s = .ok x s' ↔ IsSuffix s.ahead x s'.ahead ∧ s' = { s with ahead := s'.ahead } := by
  rw [suffix, run_bind_of_ok run_get]
  cases scan : Suffix.scan s.stop 0 s.ahead with
  | error e =>
    have none : ¬ IsSuffix s.ahead x s'.ahead := fun h => by
      cases scan.symm.trans (Suffix.scan_eq_ok_iff.2 h)
    simp only [none, false_and, iff_false]
    intro h
    cases h
  | ok r =>
    obtain ⟨y, rest⟩ := r
    constructor
    · intro h
      cases h
      exact ⟨Suffix.scan_eq_ok_iff.1 scan, rfl⟩
    · rintro ⟨isSuffix, eq⟩
      cases scan.symm.trans (Suffix.scan_eq_ok_iff.2 isSuffix)
      rw [eq]
      rfl

theorem suffix_eq_error {e : Failure} (h : suffix.run s = .error e s') : s' = s := by
  rw [suffix, run_bind_of_ok run_get] at h
  split at h
  · cases h
    rfl
  · cases h

/-- The rest of a tag is found exactly if the tokens ahead start with one, and it is the only one
they start with. Then the stream is left behind it, and otherwise where it was. -/
theorem suffix_ok_iff (s : TokenStream) :
    (∀ x s', suffix.run s = .ok x s' ↔
      IsSuffix s.ahead x s'.ahead ∧ s' = { s with ahead := s'.ahead }) ∧
    (∀ x y rest rest', IsSuffix s.ahead x rest → IsSuffix s.ahead y rest' →
      x = y ∧ rest = rest') ∧
    ∀ e s', suffix.run s = .error e s' → s' = s := by
  refine ⟨fun x s' => suffix_eq_ok_iff, fun x y rest rest' hx hy => ?_, fun e s' => suffix_eq_error⟩
  have scan : Suffix.scan s.stop 0 s.ahead = .ok (x, rest) := Suffix.scan_eq_ok_iff.2 hx
  cases scan.symm.trans (Suffix.scan_eq_ok_iff.2 hy)
  exact ⟨rfl, rfl⟩

end Parser

end ComponentMarkup
