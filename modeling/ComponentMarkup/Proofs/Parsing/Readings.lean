import ComponentMarkup.Proofs.Parsing.Neutral

/-!
# Readings of a tag

The end of a tag is found by what stands in front of it, and then the tag is read from its own
tokens. So a tag is read the same way whatever stands behind it, and whatever was read before it.

## Main definitions

* `Reading` — what comes of reading a tag.
* `TokenStream.reading` — the reading of the tag at a stream.
* `Suffix.width` — how many tokens a tag has.

## Main statements

* `IsSuffix.of_rest` — where a tag ends does not depend on what follows.
* `TagReader.read_eq` — a reader only adds the reading of the tag to what it has.
* `TagReader.read_local` — a tag is read from its own tokens.
-/

namespace ComponentMarkup

open Source (Location)

/-! ## The end of a tag and what follows -/

section

variable {depth : Nat} {ts rest rest' : List Token} {x : Suffix}

theorem meetsCloser_append_congr (us : List Token)
    (same : MeetsCloser rest' ↔ MeetsCloser rest) :
    MeetsCloser (us ++ rest') ↔ MeetsCloser (us ++ rest) := by
  cases us with
  | nil => exact same
  | cons t us => simp

/-- Behind the tokens inside of a tag, only a `>` that comes at once makes a difference. -/
theorem IsInside.of_rest (h : IsInside depth ts rest)
    (same : MeetsCloser rest' ↔ MeetsCloser rest) : IsInside depth ts rest' := by
  induction h generalizing rest' with
  | nil => exact .nil
  | group opens balanced closes _ ih => exact .group opens balanced closes (ih same)
  | arrow dash head _ ih => exact .arrow dash head (ih same)
  | pair opens _ closes _ ihInside ih =>
    -- The tokens of the pair have its own `>` behind them, whatever comes after that.
    exact .pair opens (ihInside (by simp)) closes (ih same)
  | single opens notOpener notCloser dash slash _ ih =>
    refine .single opens notOpener notCloser ?_ ?_ (ih same)
    · intro isDash meets
      exact dash isDash ((meetsCloser_append_congr _ same).1 meets)
    · intro zero isSlash meets
      exact slash zero isSlash ((meetsCloser_append_congr _ same).1 meets)

theorem IsSuffix.eq_append (h : IsSuffix ts x rest) : ts = x.tokens ++ rest := by
  cases h <;> simp [Suffix.tokens]

/-- Where a tag ends does not depend on what follows. -/
theorem IsSuffix.of_rest (h : IsSuffix ts x rest) (rest' : List Token) :
    IsSuffix (x.tokens ++ rest') x rest' := by
  cases h with
  | @opening interior rest closer inside isCloser =>
    have inside' : IsInside 0 interior (closer :: rest') := inside.of_rest (by simp)
    simpa [Suffix.tokens] using IsSuffix.opening inside' isCloser
  | @selfClosing interior rest slash closer inside isSlash isCloser =>
    have inside' : IsInside 0 interior (slash :: closer :: rest') := inside.of_rest (by simp)
    simpa [Suffix.tokens] using IsSuffix.selfClosing inside' isSlash isCloser

end

/-! ## Readings -/

/-- A reader that has read nothing yet. -/
def TagReader.fresh (config : Config) : TagReader := { config }

/-- What comes of reading a tag: the outcome, the tokens that are left, and what is added to the
warnings and to the journal. -/
structure Reading where
  outcome : Except Failure ComponentTag
  left : List Token
  warnings : List Warning := []
  journal : Journal := []

/-- The outcome, and the reader and the stream with what the reading adds to them. -/
def Reading.result (x : Reading) (r : TagReader) (s : TokenStream) :
    Except Failure ComponentTag × TagReader × TokenStream :=
  (x.outcome, { r with warnings := r.warnings ++ x.warnings },
    { s with
      ahead := x.left
      warnings := s.warnings ++ x.warnings
      journal := s.journal ++ x.journal })

namespace Suffix

/-- How many tokens a tag has, from its `<` to the `>` that closes it. -/
def width (x : Suffix) : Nat := x.tokens.length + 1

/-- The reading of a tag whose end is found, with the tokens behind it. -/
def reading (config : Config) (opener : Token) (x : Suffix) (rest : List Token) : Reading :=
  match x.slash with
  | none => { outcome := .error (.rejected (.malformedTag opener x.closer)), left := rest }
  | some slash =>
    match (Parser.interior config (opener.spanTo x.closer)).run
        ⟨x.interior, slash.start, [], []⟩ with
    | .error e inner =>
      { outcome := .error (e.atSlash slash), left := rest, journal := inner.journal }
    | .ok c inner =>
      { outcome := .ok c, left := rest, warnings := inner.warnings
        journal := inner.journal ++ [⟨.component, s!"parsed component {c.describe}"⟩] }

/-- What is read behind the end of a tag are the tokens that are left there, and nothing else. -/
theorem reading_eq (config : Config) (opener : Token) (x : Suffix) (rest : List Token) :
    x.reading config opener rest = { x.reading config opener [] with left := rest } := by
  unfold reading
  split
  · rfl
  · split <;> rfl

theorem warnings_reading {config : Config} {opener : Token} {x : Suffix} {rest : List Token}
    {e : Failure} (h : (x.reading config opener rest).outcome = .error e) :
    (x.reading config opener rest).warnings = [] := by
  unfold reading at h ⊢
  split at h
  · rfl
  · split at h
    · rfl
    · cases h

end Suffix

/-- The reading of the tag at a stream. -/
def TokenStream.reading (config : Config) (s : TokenStream) : Reading :=
  match s.ahead with
  | [] => { outcome := .error (.rejected (.unexpectedEnd "`<`" s.stop)), left := [] }
  | t :: ts =>
    if t.isMark .lessThan then
      match Suffix.scan s.stop 0 ts with
      | .error e => { outcome := .error e, left := ts }
      | .ok (x, rest) => x.reading config t rest
    else { outcome := .error (.rejected (.unexpectedToken "`<`" t)), left := t :: ts }

/-- A tag that is not read adds no warnings. -/
theorem TokenStream.warnings_reading {config : Config} {s : TokenStream} {e : Failure} :
    (s.reading config).outcome = .error e → (s.reading config).warnings = [] := by
  unfold reading
  split
  · exact fun _ => rfl
  · split
    · split
      · exact fun _ => rfl
      · exact Suffix.warnings_reading
    · exact fun _ => rfl

namespace TagReader

variable {r q : TagReader} {s t : TokenStream} {opener : Token} {x : Suffix} {ts rest : List Token}

theorem read_of_error {e : Failure} {s' : TokenStream}
    (h : (Parser.component r.config).run s = .error e s') : r.read s = (.error e, r, s') := by
  rw [read, h]

theorem read_of_nil (ahead : s.ahead = []) :
    r.read s = (.error (.rejected (.unexpectedEnd "`<`" s.stop)), r, s) := by
  obtain ⟨ahead, stop, warnings, journal⟩ := s
  subst ahead
  exact read_of_error rfl

theorem read_of_not_isMark (ahead : s.ahead = opener :: ts)
    (other : opener.isMark .lessThan = false) :
    r.read s = (.error (.rejected (.unexpectedToken "`<`" opener)), r, s) := by
  have kind : opener.kind ≠ .mark .lessThan := fun same => by
    rw [Token.kind_eq_mark, other] at same
    cases same
  have fails : (Parser.mark .lessThan).run s =
      .error (.rejected (.unexpectedToken "`<`" opener)) s := by
    rw [Parser.mark, Parser.consume, Parser.run_bind_of_ok Parser.run_peek, ahead]
    simp only [List.head?_cons, if_neg kind]
    rfl
  apply read_of_error
  rw [Parser.component, Parser.run_bind, fails]

theorem read_of_scan_error {e : Failure} (ahead : s.ahead = opener :: ts)
    (opens : opener.isMark .lessThan = true) (found : Suffix.scan s.stop 0 ts = .error e) :
    r.read s = (.error e, r, { s with ahead := ts }) := by
  have opened : (Parser.mark .lessThan).run s = .ok opener { s with ahead := ts } :=
    Parser.mark_eq_ok_iff.2 ⟨opens, TokenStream.eq_before ahead⟩
  have fails : Parser.suffix.run { s with ahead := ts } = .error e { s with ahead := ts } := by
    rw [Parser.suffix, Parser.run_bind_of_ok Parser.run_get]
    simp only [found]
    rfl
  apply read_of_error
  rw [Parser.component, Parser.run_bind_of_ok opened, Parser.run_bind, fails]

theorem read_of_scan_ok (ahead : s.ahead = opener :: ts)
    (opens : opener.isMark .lessThan = true) (found : Suffix.scan s.stop 0 ts = .ok (x, rest)) :
    r.read s = (x.reading r.config opener rest).result r s := by
  have opened : (Parser.mark .lessThan).run s = .ok opener { s with ahead := ts } :=
    Parser.mark_eq_ok_iff.2 ⟨opens, TokenStream.eq_before ahead⟩
  have ends : Parser.suffix.run { s with ahead := ts } = .ok x { s with ahead := rest } :=
    Parser.suffix_eq_ok_iff.2 ⟨Suffix.scan_eq_ok_iff.1 found, rfl⟩
  rw [read, Parser.component, Parser.run_bind_of_ok opened, Parser.run_bind_of_ok ends]
  unfold Suffix.reading
  cases x.slash with
  | none => simp [Reading.result, Parser.run_reject]
  | some slash =>
    simp only [Parser.run_bind, Parser.within]
    cases (Parser.interior r.config (opener.spanTo x.closer)).run
        ⟨x.interior, slash.start, [], []⟩ with
    | error e inner =>
      simp only [Reading.result, List.append_nil]
      rfl
    | ok c inner =>
      simp only [Reading.result, ← List.append_assoc]
      rfl

/-- A tag with a neutral interior ends at its own `/>`, and comes out as its interior does. -/
theorem outcome_of_neutral {inside : List Token} {slash closer : Token} (neutral : Neutral inside)
    (ahead : s.ahead = opener :: (inside ++ slash :: closer :: rest))
    (opens : opener.isMark .lessThan = true) (isSlash : slash.isMark .slash = true)
    (isCloser : closer.isMark .greaterThan = true) :
    (r.read s).1 =
      match (Parser.interior r.config (opener.spanTo closer)).run ⟨inside, slash.start, [], []⟩ with
      | .ok c _ => .ok c
      | .error e _ => .error (e.atSlash slash) := by
  have follow : ¬ MeetsCloser (slash :: closer :: rest) := by
    rw [meetsCloser_cons, Token.isMark_of_isMark isSlash (n := .greaterThan) nofun]
    exact Bool.false_ne_true
  have isSuffix := IsSuffix.selfClosing (neutral.isInside follow) isSlash isCloser
  rw [read_of_scan_ok ahead opens (Suffix.scan_eq_ok_iff.2 isSuffix)]
  simp only [Suffix.reading, Reading.result]
  generalize (Parser.interior r.config (opener.spanTo closer)).run
    ⟨inside, slash.start, [], []⟩ = outcome
  cases outcome <;> rfl

/-! ### Any tag -/

/-- A reader only adds the reading of the tag to what it has. -/
theorem read_eq (r : TagReader) (s : TokenStream) : r.read s = (s.reading r.config).result r s := by
  unfold TokenStream.reading
  split
  case h_1 ahead =>
    rw [read_of_nil ahead, Reading.result]
    simp [← ahead]
  case h_2 opener ts ahead =>
    split
    case isTrue opens =>
      split
      case h_1 e found =>
        rw [read_of_scan_error ahead opens found, Reading.result]
        simp
      case h_2 x rest found => exact read_of_scan_ok ahead opens found
    case isFalse other =>
      rw [read_of_not_isMark ahead (by simpa using other), Reading.result]
      simp [← ahead]

/-- A tag is read from its own tokens: where they come again, with anything behind them, there is
the same outcome and there are the same warnings and notes, and all of the tokens are taken each
time. -/
theorem read_local (config : q.config = r.config) (ahead : s.ahead = opener :: ts)
    (opens : opener.isMark .lessThan = true) (found : Suffix.scan s.stop 0 ts = .ok (x, rest))
    (same : t.ahead.take x.width = s.ahead.take x.width) :
    ∃ outcome warnings notes,
      r.read s = (outcome, { r with warnings := r.warnings ++ warnings },
        { s with
          ahead := s.ahead.drop x.width
          warnings := s.warnings ++ warnings
          journal := s.journal ++ notes }) ∧
      q.read t = (outcome, { q with warnings := q.warnings ++ warnings },
        { t with
          ahead := t.ahead.drop x.width
          warnings := t.warnings ++ warnings
          journal := t.journal ++ notes }) := by
  obtain ⟨_, ws⟩ := q
  cases config
  have isSuffix := Suffix.scan_eq_ok_iff.1 found
  have whole : s.ahead = (opener :: x.tokens) ++ rest := by
    rw [ahead, isSuffix.eq_append, List.cons_append]
  have front : s.ahead.take x.width = opener :: x.tokens := by
    rw [whole]
    exact List.take_left' rfl
  have again : t.ahead = opener :: (x.tokens ++ t.ahead.drop x.width) := by
    rw [← List.cons_append, ← front, ← same, List.take_append_drop]
  have foundAgain : Suffix.scan t.stop 0 (x.tokens ++ t.ahead.drop x.width) =
      .ok (x, t.ahead.drop x.width) := Suffix.scan_eq_ok_iff.2 (isSuffix.of_rest _)
  have behind : s.ahead.drop x.width = rest := by
    rw [whole]
    exact List.drop_left' rfl
  refine ⟨(x.reading r.config opener []).outcome, (x.reading r.config opener []).warnings,
    (x.reading r.config opener []).journal, ?_, ?_⟩
  · rw [read_of_scan_ok ahead opens found, x.reading_eq, behind]
    rfl
  · rw [read_of_scan_ok again opens foundAgain, x.reading_eq]
    rfl

end TagReader

/-! ### A tag that ends where a value is due -/

namespace CutShort

def opener : Token := ⟨.mark .lessThan, "<", ⟨"p", 1, 1, 0⟩⟩

def suffix : Suffix where
  interior := [⟨.identifier, "A", ⟨"p", 1, 2, 1⟩⟩, ⟨.identifier, "b", ⟨"p", 1, 4, 3⟩⟩,
    ⟨.mark .assign, "=", ⟨"p", 1, 5, 4⟩⟩]
  slash := some ⟨.mark .slash, "/", ⟨"p", 1, 6, 5⟩⟩
  closer := ⟨.mark .greaterThan, ">", ⟨"p", 1, 7, 6⟩⟩

def number : Token := ⟨.integer 1, "1", ⟨"p", 1, 9, 8⟩⟩

/-- The tag and nothing else. -/
def alone : TokenStream := ⟨opener :: suffix.tokens, ⟨"p", 1, 8, 7⟩, [], []⟩

/-- The tag with a number behind it. -/
def followed : TokenStream := ⟨opener :: suffix.tokens ++ [number], ⟨"p", 1, 10, 9⟩, [], []⟩

end CutShort

/-- The value that is missing is not taken from behind the tag. -/
theorem TagReader.read_local_cutShort :
    ∃ outcome warnings notes,
      (TagReader.fresh .standard).read CutShort.alone =
        (outcome, ⟨.standard, [] ++ warnings⟩,
          ⟨[], ⟨"p", 1, 8, 7⟩, [] ++ warnings, [] ++ notes⟩) ∧
      (TagReader.fresh .standard).read CutShort.followed =
        (outcome, ⟨.standard, [] ++ warnings⟩,
          ⟨[CutShort.number], ⟨"p", 1, 10, 9⟩, [] ++ warnings, [] ++ notes⟩) := by
  have found : Suffix.scan CutShort.alone.stop 0 CutShort.suffix.tokens =
      .ok (CutShort.suffix, []) :=
    Suffix.scan_eq_ok_iff.2 (.selfClosing (.single rfl rfl rfl nofun nofun
      (.single rfl rfl rfl nofun nofun (.single rfl rfl rfl nofun nofun .nil))) rfl rfl)
  exact TagReader.read_local (r := .fresh .standard) (q := .fresh .standard)
    (t := CutShort.followed) rfl rfl rfl found rfl

end ComponentMarkup
