import ComponentMarkup.Decimal.Binary64
import ComponentMarkup.Text.Digit

/-!
# Numerals

An integer is a run of digits; a fraction, an exponent or both make it a floating-point numeral. A
run starts with a decimal digit of any script and goes on with digits and underscores.

## Main definitions

* `Numeral` — the parts of a numeral.
* `Numeral.scan` — the longest numeral at the start of a text.
* `Numeral.natural`, `Numeral.real?` — the values.

## Main statements

* `Numeral.scan_eq_some_iff` — a numeral is read part by part.
* `Numeral.append_of_scan` — what is read comes first.
-/

namespace ComponentMarkup

def isRunPart (c : Char) : Bool := Text.isDecimal c || c = '_'

/-- A run of digits at the start of a text, and the rest. -/
def digitRun? : List Char → Option (List Char × List Char)
  | [] => none
  | c :: cs =>
    if Text.isDecimal c then some (c :: cs.takeWhile isRunPart, cs.dropWhile isRunPart) else none

theorem append_of_digitRun? {s run rest : List Char} (h : digitRun? s = some (run, rest)) :
    run ++ rest = s := by
  cases s with
  | nil => simp [digitRun?] at h
  | cons c cs =>
    simp only [digitRun?] at h
    split at h
    · cases h; simp
    · cases h

theorem ne_nil_of_digitRun? {s run rest : List Char} (h : digitRun? s = some (run, rest)) :
    run ≠ [] := by
  rintro rfl
  cases s with
  | nil => cases h
  | cons c cs => simp [digitRun?] at h

/-- An exponent: its letter and sign, and its digits. -/
structure Exponent where
  mark : List Char
  run : List Char
deriving DecidableEq

structure Numeral where
  whole : List Char
  fraction : Option (List Char)
  exponent : Option Exponent
deriving DecidableEq

namespace Exponent

def text (e : Exponent) : List Char := e.mark ++ e.run

def scan? : List Char → Option (Exponent × List Char)
  | e :: s :: cs =>
    if e = 'e' || e = 'E' then
      if s = '+' || s = '-' then (digitRun? cs).map fun (run, rest) => (⟨[e, s], run⟩, rest)
      else (digitRun? (s :: cs)).map fun (run, rest) => (⟨[e], run⟩, rest)
    else none
  | _ => none

theorem append_of_scan? {s rest : List Char} {e : Exponent} (h : scan? s = some (e, rest)) :
    e.text ++ rest = s := by
  unfold scan? at h
  split at h
  · split at h
    · split at h
      all_goals
        obtain ⟨⟨run, r⟩, hr, eq⟩ := Option.map_eq_some_iff.1 h
        cases eq
        simp [text, append_of_digitRun? hr]
    · cases h
  · cases h

end Exponent

namespace Numeral

/-- A fraction is a point with a run of digits behind it. -/
def scanFraction : List Char → Option (List Char) × List Char
  | '.' :: cs =>
    match digitRun? cs with
    | some (run, rest) => (some run, rest)
    | none => (none, '.' :: cs)
  | cs => (none, cs)

def scanExponent (s : List Char) : Option Exponent × List Char :=
  match Exponent.scan? s with
  | some (e, rest) => (some e, rest)
  | none => (none, s)

def scan (s : List Char) : Option (Numeral × List Char) :=
  (digitRun? s).map fun (whole, s) =>
    let fraction := scanFraction s
    let exponent := scanExponent fraction.2
    (⟨whole, fraction.1, exponent.1⟩, exponent.2)

def fractionText : Option (List Char) → List Char
  | some run => '.' :: run
  | none => []

def exponentText : Option Exponent → List Char
  | some e => e.text
  | none => []

def text (n : Numeral) : List Char := n.whole ++ fractionText n.fraction ++ exponentText n.exponent

theorem scanFraction_eq_some_iff {s run rest : List Char} :
    scanFraction s = (some run, rest) ↔ ∃ cs, s = '.' :: cs ∧ digitRun? cs = some (run, rest) := by
  constructor
  · intro h
    rw [scanFraction.eq_def] at h
    split at h
    case h_1 cs =>
      split at h
      case h_1 found =>
        cases h
        exact ⟨cs, rfl, found⟩
      case h_2 => cases h
    case h_2 => cases h
  · rintro ⟨cs, rfl, found⟩
    rw [scanFraction, found]

theorem scanFraction_eq_none {s rest : List Char} (h : scanFraction s = (none, rest)) :
    rest = s := by
  rw [scanFraction.eq_def] at h
  split at h
  case h_1 cs =>
    split at h
    case h_1 => cases h
    case h_2 => exact (Prod.ext_iff.1 h).2.symm
  case h_2 => exact (Prod.ext_iff.1 h).2.symm

theorem scanExponent_eq_some_iff {s rest : List Char} {e : Exponent} :
    scanExponent s = (some e, rest) ↔ Exponent.scan? s = some (e, rest) := by
  rw [scanExponent]
  cases Exponent.scan? s <;> simp [Prod.ext_iff]

theorem scanExponent_eq_none_iff {s rest : List Char} :
    scanExponent s = (none, rest) ↔ Exponent.scan? s = none ∧ rest = s := by
  rw [scanExponent]
  cases Exponent.scan? s <;> simp [eq_comm]

/-- The parts of a numeral are read one behind the other. -/
theorem scan_eq_some_iff {s rest : List Char} {n : Numeral} :
    scan s = some (n, rest) ↔ ∃ t u, digitRun? s = some (n.whole, t) ∧
      scanFraction t = (n.fraction, u) ∧ scanExponent u = (n.exponent, rest) := by
  rw [scan, Option.map_eq_some_iff]
  constructor
  · rintro ⟨⟨whole, t⟩, run, eq⟩
    cases eq
    exact ⟨t, _, run, rfl, rfl⟩
  · rintro ⟨t, u, run, fraction, exponent⟩
    exact ⟨(n.whole, t), run, by simp only [fraction, exponent]⟩

theorem append_of_scanFraction {s rest : List Char} {f : Option (List Char)}
    (h : scanFraction s = (f, rest)) : fractionText f ++ rest = s := by
  cases f with
  | none => rw [fractionText, List.nil_append, scanFraction_eq_none h]
  | some run =>
    obtain ⟨cs, rfl, found⟩ := scanFraction_eq_some_iff.1 h
    rw [fractionText, List.cons_append, append_of_digitRun? found]

theorem append_of_scanExponent {s rest : List Char} {e : Option Exponent}
    (h : scanExponent s = (e, rest)) : exponentText e ++ rest = s := by
  cases e with
  | none => rw [exponentText, List.nil_append, (scanExponent_eq_none_iff.1 h).2]
  | some e => exact Exponent.append_of_scan? (scanExponent_eq_some_iff.1 h)

theorem append_of_scan {s rest : List Char} {n : Numeral} (h : scan s = some (n, rest)) :
    n.text ++ rest = s := by
  obtain ⟨t, u, run, fraction, exponent⟩ := scan_eq_some_iff.1 h
  rw [text, List.append_assoc, append_of_scanExponent exponent, List.append_assoc,
    append_of_scanFraction fraction, append_of_digitRun? run]

theorem text_ne_nil_of_scan {s rest : List Char} {n : Numeral} (h : scan s = some (n, rest)) :
    n.text ≠ [] := by
  obtain ⟨t, u, run, -, -⟩ := scan_eq_some_iff.1 h
  simp [text, ne_nil_of_digitRun? run]

theorem scan_eq_none_iff {c : Char} {cs : List Char} :
    scan (c :: cs) = none ↔ Text.isDecimal c = false := by
  simp [scan, digitRun?]

def isInteger (n : Numeral) : Bool := n.fraction.isNone && n.exponent.isNone

/-- The digits of a run, underscores left out. -/
def digits (run : List Char) : List Nat := run.filterMap Text.digitValue?

/-- The number that digits stand for, highest first. -/
def natural (ds : List Nat) : Nat := ds.foldl (fun n d => 10 * n + d) 0

def exponentValue : Option Exponent → Int
  | some e => if '-' ∈ e.mark then -(natural (digits e.run)) else natural (digits e.run)
  | none => 0

/-- The nearest floating-point number, if the numeral is not out of range. -/
def real? (n : Numeral) : Option Decimal.Binary64 :=
  let fraction := digits (n.fraction.getD [])
  Decimal.Binary64.ofDecimal? (natural (digits n.whole ++ fraction))
    (exponentValue n.exponent - fraction.length)

end Numeral

end ComponentMarkup
