import ComponentMarkup.Proofs.Parsing.Runs

/-!
# Reading tags

The interior of a tag is what stands between its `<` and the `/>` that closes it.

## Main definitions

* `MeetsCloser` — whether a `>` comes next.
* `Suffix.tokens` — all tokens of a suffix.
* `Suffix.Passes`, `Suffix.Ends` — a step of the search for the end of a tag, and its last one.
* `Suffix.Scans` — what the search comes to.

## Main statements

* `Suffix.scans_iff` — these are the steps of the search.
* `Suffix.append_of_scan` — a suffix is what comes first.
* `Parser.component_sound` — a tag that is read, and its interior.
-/

namespace ComponentMarkup

open Source (Location)

/-- A `>` comes next. -/
def MeetsCloser (ts : List Token) : Prop := ts.head?.any (·.isMark .greaterThan) = true

@[simp] theorem meetsCloser_cons {t : Token} {ts : List Token} :
    MeetsCloser (t :: ts) ↔ t.isMark .greaterThan = true := by
  simp [MeetsCloser]

theorem not_meetsCloser_nil : ¬ MeetsCloser [] := by simp [MeetsCloser]

namespace Suffix

def tokens (s : Suffix) : List Token := s.interior ++ (s.slash.toList ++ [s.closer])

@[simp] theorem tokens_prepend (us : List Token) (r : Suffix × List Token) :
    (prepend us r).1.tokens = us ++ r.1.tokens := by
  simp [prepend, tokens]

@[simp] theorem rest_prepend (us : List Token) (r : Suffix × List Token) :
    (prepend us r).2 = r.2 := rfl

/-! ## The steps of the search -/

/-- One step of the search: it passes over the first tokens and goes on in front of the others. -/
inductive Passes : (depth : Nat) → (ts passed : List Token) → (depth' : Nat) →
    (rest : List Token) → Prop where
  | group {depth : Nat} {t : Token} {ts rest : List Token} {g : Group} :
      t.opens?.isSome = true → Group.read (t :: ts) = .ok (g, rest) →
      Passes depth (t :: ts) g.tokens depth rest
  | closer {depth : Nat} {t : Token} {ts : List Token} :
      t.isMark .greaterThan = true → Passes (depth + 1) (t :: ts) [t] depth ts
  | opener {depth : Nat} {t : Token} {ts : List Token} :
      t.isMark .lessThan = true → Passes depth (t :: ts) [t] (depth + 1) ts
  | arrow {depth : Nat} {dash head : Token} {ts : List Token} :
      dash.isMark .minus = true → head.isMark .greaterThan = true →
      Passes depth (dash :: head :: ts) [dash, head] depth ts
  | single {depth : Nat} {t : Token} {ts : List Token} :
      t.opens? = none → t.isMark .lessThan = false → t.isMark .greaterThan = false →
      (t.isMark .minus = true → ¬ MeetsCloser ts) →
      (depth = 0 → t.isMark .slash = true → ¬ MeetsCloser ts) →
      Passes depth (t :: ts) [t] depth ts

/-- The search is over: the tag is closed here, or it cannot be. -/
inductive Ends (stop : Location) :
    (depth : Nat) → List Token → Except Failure (Suffix × List Token) → Prop where
  | opening {t : Token} {ts : List Token} :
      t.isMark .greaterThan = true → Ends stop 0 (t :: ts) (.ok (⟨[], none, t⟩, ts))
  | selfClosing {slash closer : Token} {ts : List Token} :
      slash.isMark .slash = true → closer.isMark .greaterThan = true →
      Ends stop 0 (slash :: closer :: ts) (.ok (⟨[], some slash, closer⟩, ts))
  | noTokens {depth : Nat} : Ends stop depth [] (.error (.rejected (.unexpectedEnd "`>`" stop)))
  | noGroup {depth : Nat} {t : Token} {ts : List Token} {fault : GroupFault} :
      t.opens?.isSome = true → Group.read (t :: ts) = .error fault →
      Ends stop depth (t :: ts) (.error (Parser.groupFailure stop fault (t :: ts)))

/-- What the search comes to, step by step. -/
inductive Scans (stop : Location) :
    (depth : Nat) → List Token → Except Failure (Suffix × List Token) → Prop where
  | ends {depth : Nat} {ts : List Token} {r : Except Failure (Suffix × List Token)} :
      Ends stop depth ts r → Scans stop depth ts r
  | passes {depth depth' : Nat} {ts passed rest : List Token}
      {r : Except Failure (Suffix × List Token)} :
      Passes depth ts passed depth' rest → Scans stop depth' rest r →
      Scans stop depth ts (r.map (prepend passed))

variable {stop : Location} {depth depth' : Nat} {ts passed rest : List Token}
  {r : Except Failure (Suffix × List Token)} {x : Suffix × List Token}

/-- What is passed over is what comes first. -/
theorem Passes.append (h : Passes depth ts passed depth' rest) : passed ++ rest = ts := by
  cases h with
  | group _ read => exact Group.append_of_read read
  | closer | opener | arrow | single => rfl

theorem Passes.length_lt (h : Passes depth ts passed depth' rest) : rest.length < ts.length := by
  cases h with
  | group _ read => exact Group.length_of_read read
  | closer | opener | single => exact Nat.lt_succ_self _
  | arrow => exact Nat.lt_succ_of_lt (Nat.lt_succ_self _)

theorem Passes.scan_eq (h : Passes depth ts passed depth' rest) :
    scan stop depth ts = (scan stop depth' rest).map (prepend passed) := by
  cases h with
  | group opens read =>
    rw [scan.eq_def]
    simp only [opens, if_true]
    split
    case h_1 found =>
      cases read.symm.trans found
      rfl
    case h_2 found => cases read.symm.trans found
  | closer isCloser =>
    rw [scan.eq_def]
    simp [Token.opens?_of_isMark isCloser, Mark.closer?, isCloser]
  | opener isOpener =>
    have notCloser := Token.isMark_of_isMark isOpener (n := .greaterThan) (by decide)
    rw [scan.eq_def]
    simp [Token.opens?_of_isMark isOpener, Mark.closer?, isOpener, notCloser]
  | arrow isDash isHead =>
    have notCloser := Token.isMark_of_isMark isDash (n := .greaterThan) (by decide)
    have notOpener := Token.isMark_of_isMark isDash (n := .lessThan) (by decide)
    have notSlash := Token.isMark_of_isMark isDash (n := .slash) (by decide)
    rw [scan.eq_def]
    simp [Token.opens?_of_isMark isDash, Mark.closer?, isDash, isHead, notCloser, notOpener,
      notSlash]
  | @single _ t _ opens notOpener notCloser notArrow notEnd =>
    rw [scan.eq_def]
    simp only [opens, Option.isSome_none, notOpener, notCloser, Bool.false_eq_true, if_false]
    cases rest with
    | nil => rfl
    | cons next rest =>
      simp only [meetsCloser_cons] at notArrow notEnd
      have notEnd : (t.isMark .slash && decide (depth = 0) && next.isMark .greaterThan) = false := by
        grind
      have notArrow : (t.isMark .minus && next.isMark .greaterThan) = false := by grind
      simp only [notEnd, notArrow, Bool.false_eq_true, if_false]

theorem Ends.scan_eq (h : Ends stop depth ts r) : scan stop depth ts = r := by
  cases h with
  | opening isCloser =>
    rw [scan.eq_def]
    simp [Token.opens?_of_isMark isCloser, Mark.closer?, isCloser]
  | selfClosing isSlash isCloser =>
    have notCloser := Token.isMark_of_isMark isSlash (n := .greaterThan) (by decide)
    have notOpener := Token.isMark_of_isMark isSlash (n := .lessThan) (by decide)
    rw [scan.eq_def]
    simp [Token.opens?_of_isMark isSlash, Mark.closer?, isSlash, notCloser, notOpener, isCloser]
  | noTokens => rw [scan]
  | noGroup opens read =>
    rw [scan.eq_def]
    simp only [opens, if_true]
    split
    case h_1 found => cases read.symm.trans found
    case h_2 found =>
      cases read.symm.trans found
      rfl

theorem scans_scan (stop : Location) (depth : Nat) (ts : List Token) :
    Scans stop depth ts (scan stop depth ts) := by
  fun_induction scan stop depth ts with
  | case1 => exact .ends .noTokens
  | case2 depth t ts opens g rest read ih => exact .passes (.group opens read) ih
  | case3 depth t ts opens fault read => exact .ends (.noGroup opens read)
  | case4 t ts opens isCloser => exact .ends (.opening isCloser)
  | case5 t ts opens isCloser depth ih => exact .passes (.closer isCloser) ih
  | case6 depth t ts opens notCloser isOpener ih => exact .passes (.opener isOpener) ih
  | case7 depth t opens notCloser notOpener ih =>
    exact .passes (.single (by simpa using opens) (by simpa using notOpener)
      (by simpa using notCloser) (fun _ => not_meetsCloser_nil) fun _ _ => not_meetsCloser_nil) ih
  | case8 depth t opens notCloser notOpener next rest ends =>
    simp only [Bool.and_eq_true, decide_eq_true_eq] at ends
    obtain ⟨⟨isSlash, rfl⟩, isCloser⟩ := ends
    exact .ends (.selfClosing isSlash isCloser)
  | case9 depth t opens notCloser notOpener next rest notEnd arrow ih =>
    simp only [Bool.and_eq_true] at arrow
    exact .passes (.arrow arrow.1 arrow.2) ih
  | case10 depth t opens notCloser notOpener next rest notEnd notArrow ih =>
    have dash : t.isMark .minus = true → ¬ MeetsCloser (next :: rest) := by
      rw [meetsCloser_cons]
      grind
    have slash : depth = 0 → t.isMark .slash = true → ¬ MeetsCloser (next :: rest) := by
      rw [meetsCloser_cons]
      grind
    exact .passes (.single (by simpa using opens) (by simpa using notOpener)
      (by simpa using notCloser) dash slash) ih

/-- The steps are those of the search, whose branches are not opened again: all else about it is by
induction on them. -/
theorem scans_iff : Scans stop depth ts r ↔ scan stop depth ts = r := by
  constructor
  · intro h
    induction h with
    | ends ends => exact ends.scan_eq
    | passes step _ ih => rw [step.scan_eq, ih]
  · rintro rfl
    exact scans_scan stop depth ts

/-! ## What is found -/

theorem append_of_scan (h : scan stop depth ts = .ok x) : x.1.tokens ++ x.2 = ts := by
  have scans := scans_scan stop depth ts
  generalize scan stop depth ts = r at h scans
  induction scans generalizing x with
  | ends ends =>
    cases ends with
    | opening | selfClosing =>
      cases h
      rfl
    | noTokens | noGroup => cases h
  | passes step _ ih =>
    obtain ⟨y, hy, rfl⟩ := map_eq_ok.1 h
    rw [tokens_prepend, rest_prepend, List.append_assoc, ih hy, step.append]

/-- A slash that is found stands in front of the bracket that closes the tag. -/
theorem isMark_of_scan (h : scan stop depth ts = .ok x) :
    x.1.closer.isMark .greaterThan = true ∧ ∀ slash ∈ x.1.slash, slash.isMark .slash = true := by
  have scans := scans_scan stop depth ts
  generalize scan stop depth ts = r at h scans
  induction scans generalizing x with
  | ends ends =>
    cases ends with
    | opening isCloser =>
      cases h
      exact ⟨isCloser, nofun⟩
    | selfClosing isSlash isCloser =>
      cases h
      exact ⟨isCloser, fun slash hslash => Option.some.inj hslash ▸ isSlash⟩
    | noTokens | noGroup => cases h
  | passes _ _ ih =>
    obtain ⟨y, hy, rfl⟩ := map_eq_ok.1 h
    have marks := ih hy
    exact marks

end Suffix

namespace Parser

variable {config : Config} {s s' : TokenStream} {c : ComponentTag} {warnings : List Warning}

theorem component_sound (h : (component config).run s = .ok (c, warnings) s') :
    ∃ opener slash closer inside inner,
      opener.isMark .lessThan = true ∧ slash.isMark .slash = true ∧
      closer.isMark .greaterThan = true ∧
      s.ahead = opener :: (inside ++ slash :: closer :: s'.ahead) ∧
      (interior config (opener.spanTo closer)).run ⟨inside, slash.start, [], []⟩ = .ok c inner := by
  obtain ⟨opener, s₁, hopener, h⟩ := run_bind_eq_ok.1 h
  obtain ⟨found, s₂, hsuffix, h⟩ := run_bind_eq_ok.1 h
  obtain ⟨isOpener, rfl⟩ := mark_eq_ok_iff.1 hopener
  rw [suffix, run_bind_of_ok run_get] at hsuffix
  cases scan : Suffix.scan s₁.stop 0 s₁.ahead with
  | error e =>
    simp only [scan] at hsuffix
    cases hsuffix
  | ok r =>
    obtain ⟨⟨inside, slash, closer⟩, rest⟩ := r
    simp only [scan] at hsuffix
    cases hsuffix
    have ahead := Suffix.append_of_scan scan
    obtain ⟨isCloser, isSlash⟩ := Suffix.isMark_of_scan scan
    cases slash with
    | none => cases h
    | some slash =>
      obtain ⟨r, s₃, hwithin, h⟩ := run_bind_eq_ok.1 h
      obtain ⟨s₄, run, ahead₄⟩ := run_within (p := interior config (opener.spanTo closer)) inside
        slash.start { s₁ with ahead := rest }
      cases inner : (interior config (opener.spanTo closer)).run ⟨inside, slash.start, [], []⟩ with
      | error e s =>
        rw [inner] at run
        cases run.symm.trans hwithin
        cases h
      | ok c s =>
        rw [inner] at run
        cases run.symm.trans hwithin
        cases h
        refine ⟨opener, slash, closer, inside, s, isOpener, isSlash slash rfl, isCloser, ?_, inner⟩
        simp only [Suffix.tokens, Option.toList_some, List.append_assoc, List.cons_append,
          List.nil_append] at ahead
        rw [TokenStream.ahead_before, List.singleton_append, ← ahead]
        simpa using ahead₄.symm

end Parser

end ComponentMarkup
