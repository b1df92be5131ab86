import ComponentMarkup.Proofs.Parsing.Readings
import Mathlib.Logic.ExistsUnique

/-!
# Readers of tags

A reader that reads tag by tag from one stream keeps nothing from one call to the next but the
warnings of the tags that it has read. Where a call leaves the stream is told by the tokens.

## Main definitions

* `TagReader.run` — a reader that is called again and again.
* `TagCall.alone` — a call made anew, by a reader of its own on a stream of its own.
* `Moves` — the three ways in which a call moves a stream.

## Main statements

* `TagReader.existsUnique_moves` — a call moves the stream in exactly one way.
* `TagReader.independent_run` — what comes of any number of calls.
-/

namespace ComponentMarkup

/-! ## How a call moves the stream -/

/-- The ways in which a call moves a stream. -/
inductive Move where
  | stays
  | pastOpener
  | pastTag
deriving DecidableEq, Repr

/-- From one stream to another by a way that fits the tokens: no tag starts there, or it has no end,
or it ends with the `>` in front of the tokens that are left. -/
inductive Moves (s s' : TokenStream) : Move → Prop where
  | stays : s.ahead.head?.any (·.isMark .lessThan) = false → s'.ahead = s.ahead →
      Moves s s' .stays
  | pastOpener {opener : Token} {e : Failure} : opener.isMark .lessThan = true →
      s.ahead = opener :: s'.ahead → Suffix.scan s.stop 0 s'.ahead = .error e →
      Moves s s' .pastOpener
  | pastTag {opener closer : Token} {inside : List Token} {x : Suffix} :
      opener.isMark .lessThan = true → s.ahead = opener :: (inside ++ closer :: s'.ahead) →
      Suffix.scan s.stop 0 (inside ++ closer :: s'.ahead) = .ok (x, s'.ahead) →
      closer.isMark .greaterThan = true → Moves s s' .pastTag

theorem Moves.eq {s s' : TokenStream} {m m' : Move} (h : Moves s s' m) (h' : Moves s s' m') :
    m = m' := by
  have length : ∀ {opener closer : Token} {inside : List Token},
      s.ahead = opener :: s'.ahead → s.ahead ≠ opener :: (inside ++ closer :: s'.ahead) := by
    intro opener closer inside short long
    have := congrArg List.length (short.symm.trans long)
    simp at this
    omega
  cases h with
  | stays none _ => cases h' with
    | stays => rfl
    | pastOpener opens ahead | pastTag opens ahead => simp [ahead, opens] at none
  | pastOpener opens ahead _ => cases h' with
    | stays none => simp [ahead, opens] at none
    | pastOpener => rfl
    | pastTag _ ahead' =>
      obtain ⟨rfl, -⟩ := List.cons.inj (ahead.symm.trans ahead')
      exact absurd ahead' (length ahead)
  | pastTag opens ahead _ _ => cases h' with
    | stays none => simp [ahead, opens] at none
    | pastOpener _ ahead' =>
      obtain ⟨rfl, -⟩ := List.cons.inj (ahead.symm.trans ahead')
      exact absurd ahead (length ahead')
    | pastTag => rfl

namespace TagReader

variable {r : TagReader} {s : TokenStream}

theorem exists_moves (r : TagReader) (s : TokenStream) : ∃ m, Moves s (r.read s).2.2 m := by
  cases ahead : s.ahead with
  | nil =>
    refine ⟨.stays, .stays (by simp [ahead]) ?_⟩
    rw [read_of_nil ahead]
  | cons opener ts =>
    by_cases opens : opener.isMark .lessThan = true
    · cases found : Suffix.scan s.stop 0 ts with
      | error e =>
        have left : (r.read s).2.2.ahead = ts := by rw [read_of_scan_error ahead opens found]
        rw [← left] at ahead found
        exact ⟨.pastOpener, .pastOpener opens ahead found⟩
      | ok y =>
        obtain ⟨x, rest⟩ := y
        have left : (r.read s).2.2.ahead = rest := by
          rw [read_of_scan_ok ahead opens found, x.reading_eq]
          rfl
        have tokens : (x.interior ++ x.slash.toList) ++ x.closer :: rest = ts := by
          rw [(Suffix.scan_eq_ok_iff.1 found).eq_append, Suffix.tokens]
          simp
        have isCloser := (Suffix.isMark_of_scan found).1
        rw [← tokens] at ahead found
        rw [← left] at ahead found
        exact ⟨.pastTag, .pastTag opens ahead found isCloser⟩
    · have other : opener.isMark .lessThan = false := by simpa using opens
      refine ⟨.stays, .stays (by simp [ahead, other]) ?_⟩
      rw [read_of_not_isMark ahead other]

theorem existsUnique_moves (r : TagReader) (s : TokenStream) :
    ∃! m, Moves s (r.read s).2.2 m := by
  obtain ⟨m, moves⟩ := r.exists_moves s
  exact ⟨m, moves, fun m' moves' => moves'.eq moves⟩

end TagReader

/-! ## Calls -/

/-- The stream at the same place, without anything that was gathered on the way there. -/
def TokenStream.fresh (s : TokenStream) : TokenStream := { s with warnings := [], journal := [] }

/-- A call of a reader. -/
structure TagCall where
  before : TokenStream
  outcome : Except Failure ComponentTag
  after : TokenStream

namespace TagCall

/-- The same call by a reader of its own, on a stream of its own. -/
def alone (config : Config) (call : TagCall) :
    Except Failure ComponentTag × TagReader × TokenStream :=
  (TagReader.fresh config).read call.before.fresh

def succeeds (call : TagCall) : Bool := call.outcome.isOk

/-- The warnings of the calls that succeed, one call after the other. -/
def gathered (config : Config) (calls : List TagCall) : List Warning :=
  (calls.filter succeeds).flatMap fun call => (call.alone config).2.1.warnings

end TagCall

/-- Calls one after the other, and the reader and the stream behind the last one. -/
structure TagRun where
  calls : List TagCall
  reader : TagReader
  stream : TokenStream

/-- Calls a reader as often as is asked for, whether the calls fail or not. -/
def TagReader.run (r : TagReader) (s : TokenStream) : Nat → TagRun
  | 0 => ⟨[], r, s⟩
  | n + 1 =>
    let (outcome, r', s') := r.read s
    let rest := r'.run s' n
    { rest with calls := ⟨s, outcome, s'⟩ :: rest.calls }

/-- What is the same for any calls of the reader `r` from the stream `s` on. -/
structure TagRun.Independent (r : TagReader) (s : TokenStream) (run : TagRun) : Prop where
  /-- Each call starts where the one before it has left the stream. -/
  linked : run.calls.map TagCall.before ++ [run.stream] = s :: run.calls.map TagCall.after
  outcome : ∀ call ∈ run.calls, call.outcome = (call.alone r.config).1
  moves : ∀ call ∈ run.calls, ∃! m, Moves call.before call.after m
  reader : run.reader = { r with warnings := r.warnings ++ TagCall.gathered r.config run.calls }
  warnings : run.stream.warnings = s.warnings ++ TagCall.gathered r.config run.calls

namespace TagReader

variable {r : TagReader} {s : TokenStream}

@[simp] theorem run_zero : r.run s 0 = ⟨[], r, s⟩ := rfl

@[simp] theorem calls_run_succ (n : Nat) :
    (r.run s (n + 1)).calls =
      ⟨s, (r.read s).1, (r.read s).2.2⟩ :: ((r.read s).2.1.run (r.read s).2.2 n).calls := rfl

@[simp] theorem reader_run_succ (n : Nat) :
    (r.run s (n + 1)).reader = ((r.read s).2.1.run (r.read s).2.2 n).reader := rfl

@[simp] theorem stream_run_succ (n : Nat) :
    (r.run s (n + 1)).stream = ((r.read s).2.1.run (r.read s).2.2 n).stream := rfl

theorem fst_read (r : TagReader) (s : TokenStream) :
    (r.read s).1 = (s.reading r.config).outcome := by
  rw [read_eq, Reading.result]

theorem reader_read (r : TagReader) (s : TokenStream) :
    (r.read s).2.1 = { r with warnings := r.warnings ++ (s.reading r.config).warnings } := by
  rw [read_eq, Reading.result]

theorem stream_read (r : TagReader) (s : TokenStream) :
    (r.read s).2.2.warnings = s.warnings ++ (s.reading r.config).warnings := by
  rw [read_eq, Reading.result]

end TagReader

namespace TagCall

variable {config : Config} {call : TagCall}

/-- What was gathered before makes no difference to a reading. -/
theorem alone_eq : call.alone config =
    (call.before.reading config).result (.fresh config) call.before.fresh :=
  TagReader.read_eq ..

/-- A call adds the warnings of its reading, which has none if the call fails. -/
theorem gathered_cons (h : call.outcome = (call.before.reading config).outcome)
    (calls : List TagCall) :
    gathered config (call :: calls) =
      (call.before.reading config).warnings ++ gathered config calls := by
  unfold gathered
  cases outcome : call.outcome with
  | error e =>
    have fails : call.succeeds = false := by rw [succeeds, outcome]; rfl
    have none := TokenStream.warnings_reading (h.symm.trans outcome)
    rw [List.filter_cons_of_neg (by simp [fails]), none, List.nil_append]
  | ok c =>
    have succeeds : call.succeeds = true := by rw [succeeds, outcome]; rfl
    rw [List.filter_cons_of_pos succeeds, List.flatMap_cons, alone_eq]
    rfl

end TagCall

/-- Calls of one reader on one stream do not depend on each other but for the place in the stream,
to which each of them moves on in one of the three ways. They gather the warnings of the calls that
succeed. -/
theorem TagReader.independent_run (r : TagReader) (s : TokenStream) (n : Nat) :
    (r.run s n).calls.length = n ∧ (r.run s n).Independent r s := by
  induction n generalizing r s with
  | zero =>
    refine ⟨rfl, ⟨rfl, ?_, ?_, ?_, ?_⟩⟩ <;> simp [TagCall.gathered]
  | succ n ih =>
    obtain ⟨length, linked, outcome, moves, reader, warnings⟩ := ih (r.read s).2.1 (r.read s).2.2
    have config : (r.read s).2.1.config = r.config := by rw [reader_read]
    rw [config] at outcome reader warnings
    have first : (TagCall.mk s (r.read s).1 (r.read s).2.2).outcome =
        (s.reading r.config).outcome := r.fst_read s
    refine ⟨by simp [length], ⟨?_, ?_, ?_, ?_, ?_⟩⟩
    · simp [linked]
    · rw [calls_run_succ, List.forall_mem_cons]
      refine ⟨?_, outcome⟩
      rw [first, TagCall.alone_eq]
      rfl
    · rw [calls_run_succ, List.forall_mem_cons]
      exact ⟨r.existsUnique_moves s, moves⟩
    · rw [reader_run_succ, reader, calls_run_succ, TagCall.gathered_cons first, reader_read]
      simp
    · rw [stream_run_succ, warnings, calls_run_succ, TagCall.gathered_cons first, stream_read]
      simp

end ComponentMarkup
