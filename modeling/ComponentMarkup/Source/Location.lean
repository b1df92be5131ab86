import ComponentMarkup.Text.Quoted

/-!
# Locations and spans

## Main definitions

* `Location` — a place in a file: its line and column count from one, its offset from zero.
* `Location.after` — the place behind a text that starts at a place.
* `Span` — the text between two places.
* `Span.join` — the least span around two spans.
-/

namespace ComponentMarkup.Source

structure Location where
  file : String
  line : Nat
  column : Nat
  offset : Nat
deriving DecidableEq, Repr

namespace Location

def start (file : String) : Location := ⟨file, 1, 1, 0⟩

def step (l : Location) (c : Char) : Location :=
  if c = '\n' then { l with line := l.line + 1, column := 1, offset := l.offset + 1 }
  else { l with column := l.column + 1, offset := l.offset + 1 }

def after (l : Location) (text : List Char) : Location := text.foldl step l

@[simp] theorem after_nil (l : Location) : l.after [] = l := rfl

@[simp] theorem after_append (l : Location) (s t : List Char) :
    l.after (s ++ t) = (l.after s).after t := by
  simp [after]

@[simp] theorem file_after (l : Location) (s : List Char) : (l.after s).file = l.file := by
  induction s generalizing l with
  | nil => rfl
  | cons c s ih =>
    rw [after, List.foldl_cons, ← after, ih, step]
    split <;> rfl

@[simp] theorem offset_after (l : Location) (s : List Char) :
    (l.after s).offset = l.offset + s.length := by
  induction s generalizing l with
  | nil => rfl
  | cons c s ih =>
    rw [after, List.foldl_cons, ← after, ih, step]
    split <;> simp <;> omega

def text (l : Location) : String := s!"{l.file}:{l.line}:{l.column}"

/-- All four fields, the file name quoted. -/
def describe (l : Location) : String :=
  s!"SourceLocation({Text.quoteString l.file}, {l.line}, {l.column}, {l.offset})"

end Location

structure Span where
  start : Location
  stop : Location
deriving DecidableEq, Repr

namespace Span

def join (a b : Span) : Span where
  start := if a.start.offset ≤ b.start.offset then a.start else b.start
  stop := if b.stop.offset ≤ a.stop.offset then a.stop else b.stop

def joinAll (a : Span) (bs : List Span) : Span := bs.foldl join a

/-- The file is named once if it is the same at both ends. -/
def text (s : Span) : String :=
  if s.start.file = s.stop.file then
    s!"{s.start.text}-{s.stop.line}:{s.stop.column}"
  else s!"{s.start.text}-{s.stop.text}"

end Span

end ComponentMarkup.Source
