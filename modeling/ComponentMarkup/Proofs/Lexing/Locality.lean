import ComponentMarkup.Token.Piece
import Mathlib.Data.List.TakeWhile
import Mathlib.Tactic.ByContra

/-!
# What a token depends on

A scanner looks at the characters behind a token, up to three of them, but never past a gap. So a
token is read from a text just as well when the text goes on differently behind the next gap, or
when a gap is put in behind the token. A character that no scanner looks for can stand in the place
of another one, too; only a point behind an integer can make a numeral with a fraction of it.

## Main definitions

* `Gap` — blanks and complete comments.
* `BreaksOff` — texts that no token runs on into.
* `Agree` — texts that are the same up to where the second one breaks off.
* `Resembles` — texts that are the same up to there, or up to a character that is replaced.
* `IsRun` — a decimal digit with digits and underscores behind it.

## Main statements

* `Piece.read_token_of_resembles` — a token stays when what follows it is replaced by a text that
  resembles it and starts no fraction.
* `Piece.read_token_of_agree` — it stays in front of every text that agrees with what follows it.
* `pieces_gap` — a gap is cut into pieces of its own, whatever follows.
-/

namespace ComponentMarkup

/-- A run of blanks and complete comments. -/
inductive Gap : List Char → Prop where
  | nil : Gap []
  | blank {c : Char} {g : List Char} : Text.isBlank c = true → Gap g → Gap (c :: g)
  | comment {body g : List Char} :
      ¬ ['*', '/'] <:+: body → Gap g → Gap ('/' :: '*' :: body ++ '*' :: '/' :: g)

inductive BreaksOff : List Char → Prop where
  | atEnd : BreaksOff []
  | blank {c : Char} {s : List Char} : Text.isBlank c = true → BreaksOff (c :: s)
  | comment {s : List Char} : BreaksOff ('/' :: '*' :: s)

/-- The texts are the same, or the same up to where the second one breaks off. -/
inductive Agree : List Char → List Char → Prop where
  | gap {x y : List Char} : BreaksOff y → Agree x y
  | cons {x y : List Char} (c : Char) : Agree x y → Agree (c :: x) (c :: y)

/-- A character in the place of another one. It goes on with no numeral, and with a name only if the
other one did. -/
structure Replaces (c d : Char) : Prop where
  run : isRunPart d = false
  name : isNamePart c = false → isNamePart d = false
  noSign : d ∉ ['e', 'E', '+', '-', '*']

/-- The texts are the same, or the same up to where the second one breaks off or has another
character in the place of one of the first. -/
inductive Resembles : List Char → List Char → Prop where
  | gap {x y : List Char} : BreaksOff y → Resembles x y
  | cons {x y : List Char} (c : Char) : Resembles x y → Resembles (c :: x) (c :: y)
  | replaced {c d : Char} {x y : List Char} : Replaces c d → Resembles (c :: x) (d :: y)

theorem Gap.breaksOff {g : List Char} (h : Gap g) (ne : g ≠ []) (s : List Char) :
    BreaksOff (g ++ s) := by
  cases h with
  | nil => exact absurd rfl ne
  | blank hc _ => exact .blank hc
  | comment _ _ => exact .comment

/-! ## Blanks -/

namespace Text

namespace Ranges

/-- All code points of the ranges. -/
def points (rs : Ranges) : List Nat := rs.flatMap fun r => List.range' r.1 (r.2 + 1 - r.1)

theorem mem_points_of_contains {rs : Ranges} {n : Nat} (h : rs.contains n = true) :
    n ∈ rs.points := by
  induction rs with
  | nil => simp [contains] at h
  | cons r rs ih =>
    simp only [contains] at h
    simp only [points, List.flatMap_cons, List.mem_append, List.mem_range'_1]
    split at h
    · cases h
    · split at h
      · exact .inl (by omega)
      · exact .inr (ih h)

end Ranges

theorem mem_points_of_isBlank {c : Char} (h : isBlank c = true) : c.toNat ∈ blanks.points :=
  Ranges.mem_points_of_contains h

theorem not_isDecimal_of_isBlank {c : Char} (h : isBlank c = true) : isDecimal c = false := by
  have all : ∀ n ∈ blanks.points, (digitIn zeros n).isSome = false := by decide +kernel
  exact all _ (mem_points_of_isBlank h)

theorem not_isNumeric_of_isBlank {c : Char} (h : isBlank c = true) : isNumeric c = false := by
  have all : ∀ n ∈ blanks.points,
      detachedDigits.contains n = false ∧ otherNumerics.contains n = false := by decide +kernel
  obtain ⟨detached, other⟩ := all _ (mem_points_of_isBlank h)
  simp [isNumeric, isDetachedDigit, not_isDecimal_of_isBlank h, detached, other]

theorem not_isLetter_of_isBlank {c : Char} (h : isBlank c = true) : isLetter c = false := by
  have all : ∀ n ∈ blanks.points, letters.contains n = false := by decide +kernel
  exact all _ (mem_points_of_isBlank h)

theorem isBlank_underscore : isBlank '_' = false := by decide

end Text

theorem not_isRunPart_of_isBlank {c : Char} (h : Text.isBlank c = true) :
    isRunPart c = false := by
  have ne : c ≠ '_' := by rintro rfl; simp [Text.isBlank_underscore] at h
  simp [isRunPart, Text.not_isDecimal_of_isBlank h, ne]

theorem not_isNamePart_of_isBlank {c : Char} (h : Text.isBlank c = true) :
    isNamePart c = false := by
  have ne : c ≠ '_' := by rintro rfl; simp [Text.isBlank_underscore] at h
  simp [isNamePart, Text.not_isLetter_of_isBlank h, Text.not_isNumeric_of_isBlank h, ne]

/-! ## Agreement -/

theorem not_breaksOff {c : Char} {s : List Char} (blank : Text.isBlank c = false)
    (slash : c ≠ '/') : ¬ BreaksOff (c :: s) := by
  rintro (_ | hc | _)
  · simp [blank] at hc
  · exact slash rfl

namespace Agree

@[refl] theorem refl (s : List Char) : Agree s s := by
  induction s with
  | nil => exact .gap .atEnd
  | cons c s ih => exact .cons c ih

theorem append (l : List Char) {x y : List Char} (h : Agree x y) : Agree (l ++ x) (l ++ y) := by
  induction l with
  | nil => exact h
  | cons c l ih => exact .cons c ih

/-- A character that starts no gap stands in both texts. -/
theorem uncons {x y : List Char} {c : Char} (h : Agree x (c :: y))
    (blank : Text.isBlank c = false) (slash : c ≠ '/') : ∃ x', x = c :: x' ∧ Agree x' y := by
  cases h with
  | gap off => exact absurd off (not_breaksOff blank slash)
  | cons _ rest => exact ⟨_, rfl, rest⟩

theorem resembles {x y : List Char} (h : Agree x y) : Resembles x y := by
  induction h with
  | gap off => exact .gap off
  | cons c _ ih => exact .cons c ih

end Agree

namespace Resembles

theorem append (l : List Char) {x y : List Char} (h : Resembles x y) :
    Resembles (l ++ x) (l ++ y) := by
  induction l with
  | nil => exact h
  | cons c l ih => exact .cons c ih

/-- A sign that a scanner looks for stands in both texts. -/
theorem uncons {x y : List Char} {c : Char} (h : Resembles x (c :: y))
    (sign : c ∈ ['e', 'E', '+', '-', '*']) : ∃ x', x = c :: x' ∧ Resembles x' y := by
  have inner : ∀ d ∈ ['e', 'E', '+', '-', '*'], Text.isBlank d = false ∧ d ≠ '/' := by
    intro d hd
    simp only [List.mem_cons, List.not_mem_nil, or_false] at hd
    rcases hd with rfl | rfl | rfl | rfl | rfl <;> decide
  cases h with
  | gap off => exact absurd off (not_breaksOff (inner c sign).1 (inner c sign).2)
  | cons _ rest => exact ⟨_, rfl, rest⟩
  | replaced replaces => exact absurd sign replaces.noSign

theorem unappend {l x y : List Char} (signs : ∀ c ∈ l, c ∈ ['e', 'E', '+', '-', '*'])
    (h : Resembles x (l ++ y)) : ∃ x', x = l ++ x' ∧ Resembles x' y := by
  induction l generalizing x with
  | nil => exact ⟨x, rfl, h⟩
  | cons c l ih =>
    obtain ⟨s, rfl, rest⟩ := h.uncons (signs c List.mem_cons_self)
    obtain ⟨x', rfl, resembles⟩ := ih (fun d hd => signs d (List.mem_cons_of_mem c hd)) rest
    exact ⟨x', rfl, resembles⟩

theorem head?_ne_star {x y : List Char} (h : Resembles x y) (hx : x.head? ≠ some '*') :
    y.head? ≠ some '*' := by
  intro star
  obtain ⟨y, rfl⟩ := List.head?_eq_some_iff.1 star
  obtain ⟨x, rfl, -⟩ := h.uncons (by decide)
  exact hx rfl

end Resembles

/-- A class of characters that no gap starts with. -/
structure Inner (p : Char → Bool) : Prop where
  blank : ∀ c, Text.isBlank c = true → p c = false
  slash : p '/' = false

theorem inner_isRunPart : Inner isRunPart where
  blank _ := not_isRunPart_of_isBlank
  slash := by decide

theorem inner_isDecimal : Inner Text.isDecimal where
  blank _ := Text.not_isDecimal_of_isBlank
  slash := by decide

theorem inner_isNamePart : Inner isNamePart where
  blank _ := not_isNamePart_of_isBlank
  slash := by decide

/-- The text does not start with a character of the class. -/
def Stops (p : Char → Bool) (s : List Char) : Prop := ∀ c ∈ s.head?, p c = false

theorem Stops.of_resembles {p : Char → Bool} (inner : Inner p)
    (replaced : ∀ c d, Replaces c d → p c = false → p d = false) {x y : List Char}
    (hx : Stops p x) (h : Resembles x y) : Stops p y := by
  cases h with
  | gap off =>
    cases off with
    | atEnd => simp [Stops]
    | blank hc => simpa [Stops] using inner.blank _ hc
    | comment => simpa [Stops] using inner.slash
  | cons c _ => simpa [Stops] using hx
  | replaced replaces => simpa [Stops] using replaced _ _ replaces (by simpa [Stops] using hx)

namespace Resembles

variable {x y : List Char}

theorem stops_isRunPart (h : Resembles x y) (hx : Stops isRunPart x) : Stops isRunPart y :=
  hx.of_resembles inner_isRunPart (fun _ _ replaces _ => replaces.run) h

theorem stops_isDecimal (h : Resembles x y) (hx : Stops Text.isDecimal x) :
    Stops Text.isDecimal y := by
  refine hx.of_resembles inner_isDecimal (fun _ d replaces _ => ?_) h
  have := replaces.run
  simp_all [isRunPart]

theorem stops_isNamePart (h : Resembles x y) (hx : Stops isNamePart x) : Stops isNamePart y :=
  hx.of_resembles inner_isNamePart (fun _ _ replaces => replaces.name) h

end Resembles

theorem stops_dropWhile (p : Char → Bool) (s : List Char) : Stops p (s.dropWhile p) := by
  intro c hc
  have := List.head?_dropWhile_not p s
  rw [Option.mem_def.1 hc] at this
  simpa using this

theorem takeWhile_eq_of_stops {p : Char → Bool} {run rest : List Char} (all : ∀ c ∈ run, p c = true)
    (stops : Stops p rest) : (run ++ rest).takeWhile p = run := by
  rw [List.takeWhile_append_of_pos all]
  cases rest with
  | nil => simp
  | cons c rest => simp [stops c rfl]

theorem dropWhile_eq_of_stops {p : Char → Bool} {run rest : List Char} (all : ∀ c ∈ run, p c = true)
    (stops : Stops p rest) : (run ++ rest).dropWhile p = rest := by
  rw [List.dropWhile_append_of_pos all]
  cases rest with
  | nil => rfl
  | cons c rest => simp [stops c rfl]

/-! ## Numerals -/

def IsRun : List Char → Prop
  | [] => False
  | c :: cs => Text.isDecimal c = true ∧ ∀ d ∈ cs, isRunPart d = true

theorem IsRun.isRunPart_of_mem {run : List Char} (h : IsRun run) :
    ∀ c ∈ run, isRunPart c = true := by
  cases run with
  | nil => exact h.elim
  | cons c cs => exact List.forall_mem_cons.2 ⟨by simp [isRunPart, h.1], h.2⟩

theorem digitRun?_eq_some_iff {s run rest : List Char} :
    digitRun? s = some (run, rest) ↔ s = run ++ rest ∧ IsRun run ∧ Stops isRunPart rest := by
  constructor
  · intro h
    refine ⟨(append_of_digitRun? h).symm, ?_⟩
    cases s with
    | nil => simp [digitRun?] at h
    | cons c cs =>
      simp only [digitRun?] at h
      split at h
      case isFalse => cases h
      case isTrue decimal =>
        cases h
        exact ⟨⟨decimal, fun _ => List.mem_takeWhile_imp⟩, stops_dropWhile isRunPart cs⟩
  · rintro ⟨rfl, isRun, stops⟩
    cases run with
    | nil => exact isRun.elim
    | cons c cs =>
      obtain ⟨decimal, parts⟩ := isRun
      simp [digitRun?, decimal, takeWhile_eq_of_stops parts stops,
        dropWhile_eq_of_stops parts stops]

theorem digitRun?_of_resembles {s run rest rest' : List Char} (h : digitRun? s = some (run, rest))
    (resembles : Resembles rest rest') : digitRun? (run ++ rest') = some (run, rest') := by
  obtain ⟨-, isRun, stops⟩ := digitRun?_eq_some_iff.1 h
  exact digitRun?_eq_some_iff.2 ⟨rfl, isRun, resembles.stops_isRunPart stops⟩

theorem digitRun?_eq_none_iff {s : List Char} : digitRun? s = none ↔ Stops Text.isDecimal s := by
  cases s with
  | nil => simp [digitRun?, Stops]
  | cons c cs => cases h : Text.isDecimal c <;> simp [digitRun?, Stops, h]

theorem digitRun?_eq_none_of_resembles {s s' : List Char} (h : digitRun? s = none)
    (resembles : Resembles s s') : digitRun? s' = none :=
  digitRun?_eq_none_iff.2 (resembles.stops_isDecimal (digitRun?_eq_none_iff.1 h))

namespace Exponent

/-- The letter of an exponent, its sign or nothing, and its digits. -/
theorem scan?_eq_some_iff {s rest : List Char} {e : Exponent} :
    scan? s = some (e, rest) ↔
      ∃ letter sign, (letter = 'e' ∨ letter = 'E') ∧ (sign = [] ∨ sign = ['+'] ∨ sign = ['-']) ∧
        e.mark = letter :: sign ∧
        ∃ t, s = letter :: sign ++ t ∧ digitRun? t = some (e.run, rest) := by
  constructor
  · intro h
    rw [scan?.eq_def] at h
    split at h
    case h_1 letter c cs =>
      split at h
      case isTrue isLetter =>
        simp only [Bool.or_eq_true, decide_eq_true_eq] at isLetter
        split at h
        case isTrue isSign =>
          simp only [Bool.or_eq_true, decide_eq_true_eq] at isSign
          obtain ⟨⟨run, r⟩, hr, eq⟩ := Option.map_eq_some_iff.1 h
          cases eq
          exact ⟨letter, [c], isLetter, by simpa using isSign, rfl, cs, rfl, hr⟩
        case isFalse =>
          obtain ⟨⟨run, r⟩, hr, eq⟩ := Option.map_eq_some_iff.1 h
          cases eq
          exact ⟨letter, [], isLetter, .inl rfl, rfl, c :: cs, rfl, hr⟩
      case isFalse => cases h
    case h_2 => cases h
  · rintro ⟨letter, sign, hl, hs, hm, t, rfl, ht⟩
    obtain ⟨mark, run⟩ := e
    simp only at hm ht
    subst hm
    have isLetter : (letter = 'e' || letter = 'E') = true := by simpa using hl
    rcases hs with rfl | rfl | rfl
    · cases t with
      | nil => simp [digitRun?] at ht
      | cons c t =>
        have decimal : Text.isDecimal c = true := by
          by_contra no
          simp [digitRun?, no] at ht
        have plus : c ≠ '+' := by rintro rfl; revert decimal; decide
        have minus : c ≠ '-' := by rintro rfl; revert decimal; decide
        simp [scan?, isLetter, plus, minus, ht]
    · simp [scan?, isLetter, ht]
    · simp [scan?, isLetter, ht]

theorem scan?_of_resembles {s rest rest' : List Char} {e : Exponent}
    (h : scan? s = some (e, rest)) (resembles : Resembles rest rest') :
    scan? (e.text ++ rest') = some (e, rest') := by
  obtain ⟨letter, sign, hl, hs, hm, t, -, ht⟩ := scan?_eq_some_iff.1 h
  refine scan?_eq_some_iff.2 ⟨letter, sign, hl, hs, hm, e.run ++ rest', ?_, ?_⟩
  · simp [text, hm]
  · exact digitRun?_of_resembles ht resembles

theorem scan?_eq_none_of_resembles {s s' : List Char} (h : scan? s = none)
    (resembles : Resembles s s') : scan? s' = none := by
  by_contra some'
  obtain ⟨⟨e, rest⟩, he⟩ := Option.ne_none_iff_exists'.1 some'
  obtain ⟨letter, sign, hl, hs, hm, t, rfl, ht⟩ := scan?_eq_some_iff.1 he
  have signs : ∀ c ∈ letter :: sign, c ∈ ['e', 'E', '+', '-', '*'] := by
    rcases hl with rfl | rfl <;> rcases hs with rfl | rfl | rfl <;> simp
  obtain ⟨t', rfl, rest'⟩ := resembles.unappend signs
  cases hr : digitRun? t' with
  | none => simp [digitRun?_eq_none_of_resembles hr rest'] at ht
  | some r =>
    obtain ⟨run, r⟩ := r
    have found : scan? (letter :: sign ++ t') = some (⟨letter :: sign, run⟩, r) :=
      scan?_eq_some_iff.2 ⟨letter, sign, hl, hs, rfl, t', rfl, hr⟩
    rw [found] at h
    cases h

end Exponent

namespace Numeral

theorem scanFraction_eq_none_iff {s : List Char} :
    (scanFraction s).1 = none ↔ ∀ cs, s = '.' :: cs → Stops Text.isDecimal cs := by
  rw [scanFraction.eq_def]
  split
  case h_1 cs =>
    simp only [List.cons.injEq, true_and, forall_eq', ← digitRun?_eq_none_iff]
    cases digitRun? cs <;> simp
  case h_2 noPoint => exact iff_of_true rfl fun cs eq => absurd eq (noPoint cs)

theorem scanFraction_of_eq_none {s : List Char} (h : (scanFraction s).1 = none) :
    scanFraction s = (none, s) :=
  Prod.ext h (scanFraction_eq_none (Prod.ext h rfl))

/-- A point in the second text is that of the first one. -/
theorem scanFraction_eq_none_of_agree {s s' : List Char} (h : (scanFraction s).1 = none)
    (agree : Agree s s') : (scanFraction s').1 = none := by
  rw [scanFraction_eq_none_iff] at h ⊢
  rintro cs rfl
  obtain ⟨x, rfl, rest⟩ := agree.uncons (by decide) (by decide)
  exact rest.resembles.stops_isDecimal (h x rfl)

theorem scanFraction_of_resembles {s rest rest' : List Char} {f : Option (List Char)}
    (h : scanFraction s = (f, rest)) (resembles : Resembles rest rest')
    (point : f = none → (scanFraction rest').1 = none) :
    scanFraction (fractionText f ++ rest') = (f, rest') := by
  cases f with
  | none => exact scanFraction_of_eq_none (point rfl)
  | some run =>
    obtain ⟨cs, -, found⟩ := scanFraction_eq_some_iff.1 h
    exact scanFraction_eq_some_iff.2 ⟨run ++ rest', rfl, digitRun?_of_resembles found resembles⟩

theorem scanExponent_of_resembles {s rest rest' : List Char} {e : Option Exponent}
    (h : scanExponent s = (e, rest)) (resembles : Resembles rest rest') :
    scanExponent (exponentText e ++ rest') = (e, rest') := by
  cases e with
  | none =>
    obtain ⟨none, rfl⟩ := scanExponent_eq_none_iff.1 h
    exact scanExponent_eq_none_iff.2 ⟨Exponent.scan?_eq_none_of_resembles none resembles, rfl⟩
  | some e =>
    have found := scanExponent_eq_some_iff.1 h
    exact scanExponent_eq_some_iff.2 (Exponent.scan?_of_resembles found resembles)

/-- An exponent starts with its letter and not with a point. -/
theorem scanFraction_exponentText {s rest : List Char} {e : Exponent}
    (h : scanExponent s = (some e, rest)) (rest' : List Char) :
    (scanFraction (exponentText (some e) ++ rest')).1 = none := by
  have found := scanExponent_eq_some_iff.1 h
  obtain ⟨letter, sign, isLetter, -, mark, -⟩ := Exponent.scan?_eq_some_iff.1 found
  refine scanFraction_eq_none_iff.2 fun cs eq => ?_
  rw [exponentText, Exponent.text, mark] at eq
  rcases isLetter with rfl | rfl <;> cases eq

/-- The same numeral in front of another text. Of an integer that text must not make a numeral with
a fraction. -/
theorem scan_of_resembles {s rest rest' : List Char} {n : Numeral} (h : scan s = some (n, rest))
    (resembles : Resembles rest rest')
    (point : n.isInteger = true → (scanFraction rest).1 = none →
      (scanFraction rest').1 = none) :
    scan (n.text ++ rest') = some (n, rest') := by
  obtain ⟨whole, f, e⟩ := n
  obtain ⟨t, u, run, fraction, exponent⟩ := scan_eq_some_iff.1 h
  have behindFraction := resembles.append (exponentText e)
  rw [append_of_scanExponent exponent] at behindFraction
  have behindWhole := behindFraction.append (fractionText f)
  rw [append_of_scanFraction fraction] at behindWhole
  have noPoint : f = none → (scanFraction (exponentText e ++ rest')).1 = none := by
    rintro rfl
    cases e with
    | some e => exact scanFraction_exponentText exponent rest'
    | none =>
      obtain rfl := scanFraction_eq_none fraction
      obtain ⟨-, rfl⟩ := scanExponent_eq_none_iff.1 exponent
      exact point rfl (by rw [fraction])
  refine scan_eq_some_iff.2 ⟨_, _, ?_, scanFraction_of_resembles fraction behindFraction noPoint,
    scanExponent_of_resembles exponent resembles⟩
  rw [text, List.append_assoc, List.append_assoc]
  exact digitRun?_of_resembles run behindWhole

end Numeral

/-! ## Tokens -/

theorem StringLiteral.split?_of_append {s body rest : List Char}
    (h : StringLiteral.split? s = some (body, rest)) (rest' : List Char) :
    StringLiteral.split? (body ++ '"' :: rest') = some (body, rest') := by
  fun_induction StringLiteral.split? s generalizing body with
  | case1 => cases h
  | case2 => cases h; rfl
  | case3 => cases h
  | case4 c cs ih =>
    obtain ⟨⟨b, r⟩, hr, eq⟩ := Option.map_eq_some_iff.1 h
    cases eq
    simp [StringLiteral.split?, ih hr]
  | case5 c cs quote last escape ih =>
    obtain ⟨⟨b, r⟩, hr, eq⟩ := Option.map_eq_some_iff.1 h
    cases eq
    have noQuote : c ≠ '"' := quote
    have noEscape : c ≠ '\\' := by
      rintro rfl
      cases cs with
      | nil => exact last rfl rfl
      | cons d ds => exact escape d ds rfl rfl
    rw [List.cons_append, StringLiteral.split?.eq_5 _ _ noQuote (by simp [noEscape])
      (by simp [noEscape]), ih hr]
    rfl

namespace Piece

namespace NumeralAs

variable {n : Numeral} {s rest lexeme : List Char} {content : Content}

theorem token (h : NumeralAs n s (.ok (.token content lexeme, rest))) :
    lexeme = n.text ∧ rest = s ∧ ∀ s', NumeralAs n s' (.ok (.token content lexeme, s')) := by
  cases h with
  | integer isInteger last few => exact ⟨rfl, rfl, fun _ => .integer isInteger last few⟩
  | float isFloat inRange => exact ⟨rfl, rfl, fun _ => .float isFloat inRange⟩

theorem kind_eq (h : NumeralAs n s (.ok (.token content lexeme, rest))) :
    content.kind = if n.isInteger then .integer else .float := by
  cases h with
  | integer isInteger =>
    rw [if_pos isInteger]
    rfl
  | float isFloat =>
    rw [isFloat]
    rfl

end NumeralAs

section

variable {c : Char} {cs rest rest' lexeme : List Char}

/-- Only a slash asks for a look at what stands behind it. -/
theorem IsSolid.of_ne_slash (h : IsSolid c cs) (slash : c ≠ '/') (cs' : List Char) :
    IsSolid c cs' :=
  ⟨h.blank, (absurd · slash), h.detached⟩

/-- A numeral in front of another text. -/
theorem IsSolid.exists_scan_of_resembles {n : Numeral} (h : IsSolid c cs)
    (scanned : Numeral.scan (c :: cs) = some (n, rest)) (resembles : Resembles rest rest')
    (point : n.isInteger = true → (Numeral.scanFraction rest).1 = none →
      (Numeral.scanFraction rest').1 = none) :
    ∃ cs', n.text ++ rest' = c :: cs' ∧ IsSolid c cs' ∧
      Numeral.scan (c :: cs') = some (n, rest') := by
  have slash : c ≠ '/' := by
    rintro rfl
    rw [Numeral.scan_eq_none_iff.2 (by decide)] at scanned
    cases scanned
  have whole := Numeral.append_of_scan scanned
  have scanned' := Numeral.scan_of_resembles scanned resembles point
  obtain ⟨d, ds, text⟩ := List.exists_cons_of_ne_nil (Numeral.text_ne_nil_of_scan scanned)
  rw [text, List.cons_append] at whole scanned' ⊢
  obtain ⟨rfl, -⟩ := List.cons.inj whole
  exact ⟨ds ++ rest', rfl, h.of_ne_slash slash _, scanned'⟩

theorem read_name (start : isNameStart c = true) (blank : Text.isBlank c = false)
    (detached : Text.isDetachedDigit c = false) (decimal : Text.isDecimal c = false)
    (parts : ∀ d ∈ cs, isNamePart d = true) (stops : Stops isNamePart rest) :
    read c (cs ++ rest) = .ok (.token (nameContent (c :: cs)) (c :: cs), rest) := by
  have slash : c ≠ '/' := by
    rintro rfl
    exact absurd start (by decide)
  have isName : ReadAs c (cs ++ rest) _ := .name ⟨blank, (absurd · slash), detached⟩ decimal start
  rw [takeWhile_eq_of_stops parts stops, dropWhile_eq_of_stops parts stops] at isName
  exact isName.eq

/-- A token in front of another text. Only an integer can become part of another token there. -/
theorem read_token_of_resembles {content : Content}
    (h : read c cs = .ok (.token content lexeme, rest)) (resembles : Resembles rest rest')
    (point : content.kind = .integer → (Numeral.scanFraction rest).1 = none →
      (Numeral.scanFraction rest').1 = none) :
    ∃ cs', lexeme ++ rest' = c :: cs' ∧ read c cs' = .ok (.token content lexeme, rest') := by
  cases readAs_iff.2 h with
  | numeral solid scanned numeral =>
    obtain ⟨rfl, rfl, again⟩ := numeral.token
    obtain ⟨cs', eq, solid', scanned'⟩ := solid.exists_scan_of_resembles scanned resembles
      fun isInteger => point (by rw [numeral.kind_eq, if_pos isInteger])
    exact ⟨cs', eq, ReadAs.eq (.numeral solid' scanned' (again rest'))⟩
  | name solid decimal start =>
    have stops := resembles.stops_isNamePart (stops_dropWhile isNamePart cs)
    exact ⟨cs.takeWhile isNamePart ++ rest', rfl, read_name start solid.blank solid.detached decimal
      (fun _ => List.mem_takeWhile_imp) stops⟩
  | @string body _ quote closed =>
    exact ⟨body ++ '"' :: rest', by simp [quote],
      ReadAs.eq (.string quote (StringLiteral.split?_of_append closed rest'))⟩
  | mark m char comment =>
    exact ⟨rest', rfl,
      ReadAs.eq (.mark m char fun slash => resembles.head?_ne_star (comment slash))⟩

end

theorem read_token_of_agree {c : Char} {cs rest rest' : List Char} {content : Content}
    {lexeme : List Char} (h : read c cs = .ok (.token content lexeme, rest))
    (agree : Agree rest rest') :
    ∃ cs', lexeme ++ rest' = c :: cs' ∧ read c cs' = .ok (.token content lexeme, rest') :=
  read_token_of_resembles h agree.resembles fun _ none =>
    Numeral.scanFraction_eq_none_of_agree none agree

/-! ## Gaps -/

theorem splitComment_append {body : List Char} (h : ¬ ['*', '/'] <:+: body) (s : List Char) :
    splitComment (body ++ '*' :: '/' :: s) = (body ++ ['*', '/'], s) := by
  induction body with
  | nil => rfl
  | cons c body ih =>
    have rest : ¬ ['*', '/'] <:+: body := fun inside =>
      h (inside.trans (List.infix_cons (List.infix_refl _)))
    have noEnd : ∀ cs, c = '*' → body ++ '*' :: '/' :: s = '/' :: cs → False := by
      rintro cs rfl eq
      cases body with
      | nil => cases eq
      | cons d body =>
        cases eq
        exact h ⟨[], body, rfl⟩
    rw [List.cons_append, splitComment.eq_3 _ _ noEnd, ih rest]
    rfl

theorem read_comment {body : List Char} (h : ¬ ['*', '/'] <:+: body) (s : List Char) :
    read '/' ('*' :: body ++ '*' :: '/' :: s) =
      .ok (.gap ('/' :: '*' :: body ++ ['*', '/']), s) :=
  ReadAs.eq (.comment rfl rfl (splitComment_append h s))

theorem read_blank {c : Char} (h : Text.isBlank c = true) (cs : List Char) :
    read c cs = .ok (.gap [c], cs) :=
  ReadAs.eq (.blank h)

def isGap : Piece → Bool
  | gap _ => true
  | _ => false

end Piece

theorem pieces_cons {c : Char} {cs rest : List Char} {p : Piece}
    (h : Piece.read c cs = .ok (p, rest)) :
    pieces (c :: cs) = (pieces rest).map (p :: ·) := by
  rw [pieces]
  split
  case h_1 error => cases h.symm.trans error
  case h_2 ok =>
    cases h.symm.trans ok
    cases pieces rest <;> rfl

theorem pieces_of_read_error {c : Char} {cs : List Char} {a : Abort}
    (h : Piece.read c cs = .error a) : pieces (c :: cs) = .error a := by
  rw [pieces]
  split
  case h_1 error =>
    cases error.symm.trans h
    rfl
  case h_2 ok => cases h.symm.trans ok

theorem pieces_gap {g : List Char} (h : Gap g) :
    ∃ ps : List Piece, (∀ p ∈ ps, p.isGap = true) ∧
      ∀ s, pieces (g ++ s) = (pieces s).map (ps ++ ·) := by
  induction h with
  | nil => exact ⟨[], by simp, fun s => by cases h : pieces s <;> simp [h, Except.map]⟩
  | @blank c g blank _ ih =>
    obtain ⟨ps, gaps, cut⟩ := ih
    refine ⟨.gap [c] :: ps, by simpa [Piece.isGap] using gaps, fun s => ?_⟩
    rw [List.cons_append, pieces_cons (Piece.read_blank blank _), cut s]
    cases pieces s <;> rfl
  | @comment body g complete _ ih =>
    obtain ⟨ps, gaps, cut⟩ := ih
    refine ⟨.gap ('/' :: '*' :: body ++ ['*', '/']) :: ps, by simpa [Piece.isGap] using gaps,
      fun s => ?_⟩
    have first := pieces_cons (Piece.read_comment complete (g ++ s))
    simp only [List.cons_append, List.append_assoc] at first ⊢
    rw [first, cut s]
    cases pieces s <;> rfl

end ComponentMarkup
