import ComponentMarkup.Source.Diagnostic
import ComponentMarkup.Text.Blank
import ComponentMarkup.Text.Letter
import ComponentMarkup.Token.Basic
import ComponentMarkup.Token.Numeral
import ComponentMarkup.Token.StringLiteral

/-!
# Pieces of a source

A source is cut into pieces, one behind the other: gaps, tokens and faults.

## Main definitions

* `Piece` — a gap, a token or a fault, with its text.
* `Piece.read` — the piece at the start of a nonempty source.
* `Piece.ReadAs`, `Piece.NumeralAs` — what is read, case by case.
* `pieces` — all pieces of a source.

## Main statements

* `Piece.readAs_iff`, `Piece.numeralAs_iff` — the cases are those of the reader.
* `Piece.append_of_read`, `text_pieces` — nothing of the source is lost.
-/

namespace ComponentMarkup

open Source (Diagnostic Location)

/-- Why a part of the source is no token. -/
inductive Fault where
  | invalidCharacter (c : Char)
  | unterminatedString
  | trailingUnderscore (lexeme : List Char)
  | outOfRange (lexeme : List Char)
deriving DecidableEq

/-- Why a source cannot be cut into pieces at all. -/
inductive Abort where
  /-- A character stands where a number could start and is a digit of no positional system. -/
  | detachedDigit (c : Char)
  /-- An integer has more digits than are read. -/
  | tooManyDigits (lexeme : List Char)
deriving DecidableEq

inductive Piece where
  | gap (text : List Char)
  | token (content : Content) (lexeme : List Char)
  | fault (fault : Fault) (text : List Char)
deriving DecidableEq

def isNameStart (c : Char) : Bool := Text.isLetter c || c = '_'

def isNamePart (c : Char) : Bool := Text.isLetter c || Text.isNumeric c || c = '_'

/-- Integers have at most so many digits, leading zeros included. -/
def maxDigits : Nat := 4300

namespace Piece

def text : Piece → List Char
  | gap text => text
  | token _ lexeme => lexeme
  | fault _ text => text

/-- The rest of a comment; the last comment of a source may be left open. -/
def splitComment : List Char → List Char × List Char
  | [] => ([], [])
  | '*' :: '/' :: cs => (['*', '/'], cs)
  | c :: cs => let (body, rest) := splitComment cs; (c :: body, rest)

theorem append_splitComment (s : List Char) : (splitComment s).1 ++ (splitComment s).2 = s := by
  fun_induction splitComment s with
  | case1 => rfl
  | case2 => rfl
  | case3 c cs _ body rest eq ih => simp_all

def nameContent (lexeme : List Char) : Content :=
  if lexeme = ['t', 'r', 'u', 'e'] then .boolean true
  else if lexeme = ['f', 'a', 'l', 's', 'e'] then .boolean false
  else .identifier

/-- A bad number takes the character behind it along. -/
def badNumber (fault : List Char → Fault) (lexeme rest : List Char) : Piece × List Char :=
  (.fault (fault lexeme) (lexeme ++ rest.take 1), rest.drop 1)

def ofNumeral (n : Numeral) (rest : List Char) : Except Abort (Piece × List Char) :=
  if n.isInteger then
    let digits := Numeral.digits n.whole
    if n.whole.getLast? = some '_' then .ok (badNumber .trailingUnderscore n.text rest)
    else if maxDigits < digits.length then .error (.tooManyDigits n.text)
    else .ok (.token (.integer (Numeral.natural digits)) n.text, rest)
  else
    match n.real? with
    | some x => .ok (.token (.float x) n.text, rest)
    | none => .ok (badNumber .outOfRange n.text rest)

/-- A string that is not closed takes the rest of the source along. -/
def ofString (cs : List Char) : Piece × List Char :=
  match StringLiteral.split? cs with
  | some (body, rest) =>
    (.token (.string (StringLiteral.decode body)) ('"' :: body ++ ['"']), rest)
  | none => (.fault .unterminatedString ('"' :: cs), [])

/-- The piece that starts with `c`, where `cs` is the rest of the source. -/
def read (c : Char) (cs : List Char) : Except Abort (Piece × List Char) :=
  if Text.isBlank c then .ok (.gap [c], cs)
  else if c = '/' && cs.head? = some '*' then
    let (body, rest) := splitComment (cs.drop 1)
    .ok (.gap ('/' :: '*' :: body), rest)
  else if Text.isDetachedDigit c then .error (.detachedDigit c)
  else
    match Numeral.scan (c :: cs) with
    | some (n, rest) => ofNumeral n rest
    | none =>
      if isNameStart c then
        let lexeme := c :: cs.takeWhile isNamePart
        .ok (.token (nameContent lexeme) lexeme, cs.dropWhile isNamePart)
      else if c = '"' then .ok (ofString cs)
      else
        match Mark.ofChar? c with
        | some m => .ok (.token (.mark m) [c], cs)
        | none => .ok (.fault (.invalidCharacter c) [c], cs)

/-! ## Readings -/

/-- What a numeral in front of `rest` is read as. -/
inductive NumeralAs (n : Numeral) (rest : List Char) : Except Abort (Piece × List Char) → Prop where
  | trailingUnderscore : n.isInteger = true → n.whole.getLast? = some '_' →
      NumeralAs n rest (.ok (.fault (.trailingUnderscore n.text) (n.text ++ rest.take 1), rest.drop 1))
  | tooManyDigits : n.isInteger = true → n.whole.getLast? ≠ some '_' →
      maxDigits < (Numeral.digits n.whole).length → NumeralAs n rest (.error (.tooManyDigits n.text))
  | integer : n.isInteger = true → n.whole.getLast? ≠ some '_' →
      (Numeral.digits n.whole).length ≤ maxDigits →
      NumeralAs n rest
        (.ok (.token (.integer (Numeral.natural (Numeral.digits n.whole))) n.text, rest))
  | float {x : Decimal.Binary64} : n.isInteger = false → n.real? = some x →
      NumeralAs n rest (.ok (.token (.float x) n.text, rest))
  | outOfRange : n.isInteger = false → n.real? = none →
      NumeralAs n rest (.ok (.fault (.outOfRange n.text) (n.text ++ rest.take 1), rest.drop 1))

theorem numeralAs_iff {n : Numeral} {rest : List Char} {r : Except Abort (Piece × List Char)} :
    NumeralAs n rest r ↔ ofNumeral n rest = r := by
  constructor
  · intro h
    cases h with
    | trailingUnderscore isInteger last => simp [ofNumeral, isInteger, last, badNumber]
    | tooManyDigits isInteger last many => simp [ofNumeral, isInteger, last, many]
    | integer isInteger last few => simp [ofNumeral, isInteger, last, Nat.not_lt.2 few]
    | float isFloat inRange => simp [ofNumeral, isFloat, inRange]
    | outOfRange isFloat none => simp [ofNumeral, isFloat, none, badNumber]
  · rintro rfl
    unfold ofNumeral
    split
    case isTrue isInteger =>
      dsimp only
      split
      case isTrue last => exact .trailingUnderscore isInteger last
      case isFalse last =>
        split
        case isTrue many => exact .tooManyDigits isInteger last many
        case isFalse few => exact .integer isInteger last (Nat.not_lt.1 few)
    case isFalse isFloat =>
      have isFloat := Bool.eq_false_iff.2 isFloat
      split
      case h_1 inRange => exact .float isFloat inRange
      case h_2 none => exact .outOfRange isFloat none

/-- A text that starts with no gap and with no digit that cannot be read. -/
structure IsSolid (c : Char) (cs : List Char) : Prop where
  blank : Text.isBlank c = false
  comment : c = '/' → cs.head? ≠ some '*'
  detached : Text.isDetachedDigit c = false

/-- What a text that starts with `c` is read as, case by case. -/
inductive ReadAs (c : Char) (cs : List Char) : Except Abort (Piece × List Char) → Prop where
  | blank : Text.isBlank c = true → ReadAs c cs (.ok (.gap [c], cs))
  | comment {ds body rest : List Char} : c = '/' → cs = '*' :: ds →
      splitComment ds = (body, rest) → ReadAs c cs (.ok (.gap ('/' :: '*' :: body), rest))
  | detachedDigit : Text.isBlank c = false → Text.isDetachedDigit c = true →
      ReadAs c cs (.error (.detachedDigit c))
  | numeral {n : Numeral} {rest : List Char} {r : Except Abort (Piece × List Char)} :
      IsSolid c cs → Numeral.scan (c :: cs) = some (n, rest) → NumeralAs n rest r → ReadAs c cs r
  | name : IsSolid c cs → Text.isDecimal c = false → isNameStart c = true →
      ReadAs c cs (.ok (.token (nameContent (c :: cs.takeWhile isNamePart))
        (c :: cs.takeWhile isNamePart), cs.dropWhile isNamePart))
  | string {body rest : List Char} : c = '"' → StringLiteral.split? cs = some (body, rest) →
      ReadAs c cs
        (.ok (.token (.string (StringLiteral.decode body)) ('"' :: body ++ ['"']), rest))
  | openString : c = '"' → StringLiteral.split? cs = none →
      ReadAs c cs (.ok (.fault .unterminatedString ('"' :: cs), []))
  | mark (m : Mark) : m.char = c → (c = '/' → cs.head? ≠ some '*') →
      ReadAs c cs (.ok (.token (.mark m) [c], cs))
  | invalidCharacter : IsSolid c cs → Text.isDecimal c = false → isNameStart c = false →
      c ≠ '"' → Mark.ofChar? c = none → ReadAs c cs (.ok (.fault (.invalidCharacter c) [c], cs))

section

variable {c : Char} {cs : List Char}

theorem read_of_isSolid (h : IsSolid c cs) (decimal : Text.isDecimal c = false) :
    read c cs =
      if isNameStart c then
        .ok (.token (nameContent (c :: cs.takeWhile isNamePart)) (c :: cs.takeWhile isNamePart),
          cs.dropWhile isNamePart)
      else if c = '"' then .ok (ofString cs)
      else
        match Mark.ofChar? c with
        | some m => .ok (.token (.mark m) [c], cs)
        | none => .ok (.fault (.invalidCharacter c) [c], cs) := by
  have comment : ¬ ((c = '/' && cs.head? = some '*') = true) := by simpa using h.comment
  rw [read, if_neg (by simp [h.blank]), if_neg comment, if_neg (by simp [h.detached]),
    Numeral.scan_eq_none_iff.2 decimal]

theorem isSolid_quote (cs : List Char) : IsSolid '"' cs := ⟨by decide, by simp, by decide⟩

theorem ReadAs.eq {r : Except Abort (Piece × List Char)} (h : ReadAs c cs r) : read c cs = r := by
  cases h with
  | blank blank => rw [read, if_pos blank]
  | comment slash star split =>
    subst slash star
    rw [read, if_neg (by decide), if_pos (by simp)]
    simp [split]
  | detachedDigit blank detached =>
    have slash : c ≠ '/' := by
      rintro rfl
      exact absurd detached (by decide)
    rw [read, if_neg (by simp [blank]), if_neg (by simp [slash]), if_pos detached]
  | numeral solid scanned numeral =>
    have comment : ¬ ((c = '/' && cs.head? = some '*') = true) := by simpa using solid.comment
    rw [read, if_neg (by simp [solid.blank]), if_neg comment, if_neg (by simp [solid.detached]),
      scanned]
    exact numeralAs_iff.1 numeral
  | name solid decimal start => rw [read_of_isSolid solid decimal, if_pos start]
  | string quote closed =>
    subst quote
    rw [read_of_isSolid (isSolid_quote cs) (by decide), if_neg (by decide), if_pos rfl, ofString,
      closed]
  | openString quote notClosed =>
    subst quote
    rw [read_of_isSolid (isSolid_quote cs) (by decide), if_neg (by decide), if_pos rfl, ofString,
      notClosed]
  | mark m char comment =>
    subst char
    have classes : Text.isBlank m.char = false ∧ Text.isDetachedDigit m.char = false ∧
        Text.isDecimal m.char = false ∧ isNameStart m.char = false ∧ m.char ≠ '"' := by
      cases m <;> decide
    obtain ⟨blank, detached, decimal, start, quote⟩ := classes
    rw [read_of_isSolid ⟨blank, comment, detached⟩ decimal, if_neg (by simp [start]), if_neg quote,
      Mark.ofChar?_char]
  | invalidCharacter solid decimal start quote mark =>
    rw [read_of_isSolid solid decimal, if_neg (by simp [start]), if_neg quote, mark]

theorem readAs_read (c : Char) (cs : List Char) : ReadAs c cs (read c cs) := by
  by_cases blank : Text.isBlank c = true
  · rw [ReadAs.eq (.blank blank)]
    exact .blank blank
  have blank := Bool.eq_false_iff.2 blank
  by_cases comment : c = '/' ∧ cs.head? = some '*'
  · obtain ⟨slash, star⟩ := comment
    obtain ⟨ds, eq⟩ := List.head?_eq_some_iff.1 star
    have isComment : ReadAs c cs _ := .comment slash eq rfl
    rwa [isComment.eq]
  by_cases detached : Text.isDetachedDigit c = true
  · rw [ReadAs.eq (.detachedDigit blank detached)]
    exact .detachedDigit blank detached
  have solid : IsSolid c cs :=
    ⟨blank, fun slash star => comment ⟨slash, star⟩, Bool.eq_false_iff.2 detached⟩
  cases scanned : Numeral.scan (c :: cs) with
  | some found =>
    have isNumeral : ReadAs c cs _ := .numeral solid scanned (numeralAs_iff.2 rfl)
    rwa [isNumeral.eq]
  | none =>
    have decimal := Numeral.scan_eq_none_iff.1 scanned
    rw [read_of_isSolid solid decimal]
    split
    case isTrue start => exact .name solid decimal start
    case isFalse start =>
      split
      case isTrue quote =>
        unfold ofString
        split
        case h_1 closed => exact .string quote closed
        case h_2 notClosed => exact .openString quote notClosed
      case isFalse quote =>
        split
        case h_1 m mark => exact .mark m (Mark.char_of_ofChar? mark) solid.comment
        case h_2 none => exact .invalidCharacter solid decimal (Bool.eq_false_iff.2 start) quote none

/-- A text is read in exactly one way. -/
theorem readAs_iff {r : Except Abort (Piece × List Char)} : ReadAs c cs r ↔ read c cs = r :=
  ⟨ReadAs.eq, fun h => h ▸ readAs_read c cs⟩

end

theorem append_of_numeralAs {n : Numeral} {s rest : List Char} {p : Piece}
    (h : NumeralAs n s (.ok (p, rest))) : p.text ++ rest = n.text ++ s := by
  cases h with
  | integer | float => rfl
  | trailingUnderscore | outOfRange => simp only [text, List.append_assoc, List.take_append_drop]

theorem append_of_read {c : Char} {cs rest : List Char} {p : Piece}
    (h : read c cs = .ok (p, rest)) : p.text ++ rest = c :: cs := by
  cases readAs_iff.2 h with
  | blank | mark | invalidCharacter => rfl
  | @comment ds body _ slash star split =>
    have whole := append_splitComment ds
    rw [split] at whole
    rw [slash, star, ← whole]
    rfl
  | numeral _ scanned numeral =>
    rw [append_of_numeralAs numeral, Numeral.append_of_scan scanned]
  | name => simp [text]
  | string quote closed => simp [text, quote, ← StringLiteral.append_of_split? closed]
  | openString quote => simp [text, quote]

theorem text_ne_nil_of_numeralAs {n : Numeral} {s rest : List Char} {p : Piece}
    (ne : n.text ≠ []) (h : NumeralAs n s (.ok (p, rest))) : p.text ≠ [] := by
  cases h with
  | integer | float => exact ne
  | trailingUnderscore | outOfRange => simp [text, ne]

theorem text_ne_nil_of_read {c : Char} {cs rest : List Char} {p : Piece}
    (h : read c cs = .ok (p, rest)) : p.text ≠ [] := by
  cases readAs_iff.2 h with
  | numeral _ scanned numeral =>
    exact text_ne_nil_of_numeralAs (Numeral.text_ne_nil_of_scan scanned) numeral
  | blank | comment | name | string | openString | mark | invalidCharacter => simp [text]

theorem length_of_read {c : Char} {cs rest : List Char} {p : Piece}
    (h : read c cs = .ok (p, rest)) : rest.length < (c :: cs).length := by
  have whole := congrArg List.length (append_of_read h)
  have nonempty := List.length_pos_iff.2 (text_ne_nil_of_read h)
  simp only [List.length_append] at whole
  omega

end Piece

def pieces : List Char → Except Abort (List Piece)
  | [] => .ok []
  | c :: cs =>
    match _h : Piece.read c cs with
    | .error abort => .error abort
    | .ok (p, rest) =>
      match pieces rest with
      | .error abort => .error abort
      | .ok ps => .ok (p :: ps)
termination_by s => s.length
decreasing_by exact Piece.length_of_read _h

theorem text_pieces {s : List Char} {ps : List Piece} (h : pieces s = .ok ps) :
    ps.flatMap Piece.text = s := by
  fun_induction pieces s generalizing ps with
  | case1 => cases h; rfl
  | case2 => cases h
  | case3 => cases h
  | case4 c cs p rest hp ps' hps ih =>
    cases h
    simp [ih hps, Piece.append_of_read hp]

end ComponentMarkup
