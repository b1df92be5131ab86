import ComponentMarkup.Proofs.Lexing.Respacing
import ComponentMarkup.Proofs.Lexing.Spellings

/-!
# Names

A name starts with a letter or an underscore, and goes on with letters, numeric characters and
underscores. It is read as one token wherever no such character follows it.

## Main definitions

* `Text.Ranges.disjoint` — whether two lists of ranges have nothing in common.
* `isName` — the spellings of identifiers: all names but the two of the booleans.

## Main statements

* `isName_iff_isSpelling` — these are the texts that identifiers are read from.
* `Piece.read_isName`, `Piece.read_mark` — names and marks are read as what they are.
* `Yields.name`, `Yields.mark` — texts with a name or a mark in front.
-/

namespace ComponentMarkup

namespace Text

namespace Ranges

/-- No code point belongs to both, as seen in one walk through them. -/
def disjoint : Ranges → Ranges → Bool
  | [], _ => true
  | r :: rs, ss =>
    let rest := ss.dropWhile fun s => s.2 < r.1
    rest.head?.all (r.2 < ·.1) && disjoint rs rest

theorem contains_dropWhile {ss : Ranges} {n lo : Nat} (h : lo ≤ n)
    (rest : contains (ss.dropWhile fun s => s.2 < lo) n = false) : ss.contains n = false := by
  induction ss with
  | nil => rfl
  | cons s ss ih =>
    rw [List.dropWhile_cons] at rest
    split at rest
    case isTrue below =>
      have := of_decide_eq_true below
      simp only [contains]
      grind
    case isFalse => exact rest

theorem not_contains_of_disjoint {rs ss : Ranges} {n : Nat} (h : rs.disjoint ss = true)
    (mem : rs.contains n = true) : ss.contains n = false := by
  induction rs generalizing ss with
  | nil => cases mem
  | cons r rs ih =>
    simp only [disjoint, Bool.and_eq_true] at h
    simp only [contains] at mem
    split at mem
    · cases mem
    refine contains_dropWhile (Nat.not_lt.1 ‹¬ n < r.1›) ?_
    split at mem
    case isTrue within =>
      cases rest : ss.dropWhile fun s => s.2 < r.1 with
      | nil => rfl
      | cons s more =>
        have above : r.2 < s.1 := by simpa [rest] using h.1
        simp only [contains]
        grind
    case isFalse => exact ih h.2 mem

end Ranges

/-- The runs of ten that decimal digits belong to. -/
def decimals : Ranges := zeros.map fun z => (z, z + 9)

theorem isDecimal_eq_contains (c : Char) : isDecimal c = decimals.contains c.toNat := by
  have runs (zs : List Nat) (n : Nat) :
      (digitIn zs n).isSome = Ranges.contains (zs.map fun z => (z, z + 9)) n := by
    induction zs with
    | nil => rfl
    | cons z zs ih =>
      simp only [digitIn, List.map_cons, Ranges.contains]
      grind
  exact runs zeros c.toNat

theorem not_isDecimal_of_isLetter {c : Char} (h : isLetter c = true) : isDecimal c = false := by
  have disjoint : letters.disjoint decimals = true := by decide +kernel
  rw [isDecimal_eq_contains]
  exact Ranges.not_contains_of_disjoint disjoint h

theorem not_isDetachedDigit_of_isLetter {c : Char} (h : isLetter c = true) :
    isDetachedDigit c = false := by
  have disjoint : letters.disjoint detachedDigits = true := by decide +kernel
  exact Ranges.not_contains_of_disjoint disjoint h

theorem not_isBlank_of_isLetter {c : Char} (h : isLetter c = true) : isBlank c = false := by
  by_contra blank
  rw [not_isLetter_of_isBlank (by simpa using blank)] at h
  cases h

end Text

/-- A name starts with neither a blank nor a digit. -/
theorem classes_of_isNameStart {c : Char} (h : isNameStart c = true) :
    Text.isBlank c = false ∧ Text.isDetachedDigit c = false ∧ Text.isDecimal c = false := by
  rcases Bool.or_eq_true_iff.1 h with letter | underscore
  · exact ⟨Text.not_isBlank_of_isLetter letter, Text.not_isDetachedDigit_of_isLetter letter,
      Text.not_isDecimal_of_isLetter letter⟩
  · rw [of_decide_eq_true underscore]
    decide

def isName : List Char → Bool
  | [] => false
  | c :: cs =>
    isNameStart c && cs.all isNamePart && c :: cs ≠ "true".toList && c :: cs ≠ "false".toList

theorem isName_cons_iff {c : Char} {cs : List Char} :
    isName (c :: cs) = true ↔
      isNameStart c = true ∧ (∀ d ∈ cs, isNamePart d = true) ∧
        Piece.nameContent (c :: cs) = .identifier := by
  have keywords : Piece.nameContent (c :: cs) = .identifier ↔
      c :: cs ≠ "true".toList ∧ c :: cs ≠ "false".toList := by
    unfold Piece.nameContent
    split
    case isTrue eq => simp [eq]
    case isFalse first =>
      split
      case isTrue eq => simp [eq]
      case isFalse second => exact iff_of_true rfl ⟨first, second⟩
  rw [keywords]
  simp only [isName, Bool.and_eq_true, decide_eq_true_eq, List.all_eq_true, and_assoc]

theorem isName_iff_isSpelling {s : List Char} : isName s = true ↔ IsSpelling .identifier s := by
  constructor
  · intro h
    cases s with
    | nil => cases h
    | cons c cs =>
      obtain ⟨start, parts, content⟩ := isName_cons_iff.1 h
      exact content ▸ .name start parts
  · intro h
    generalize eq : Content.identifier = content at h
    cases h with
    | name start parts => exact isName_cons_iff.2 ⟨start, parts, eq.symm⟩
    | integer | float | string | mark => cases eq

theorem Token.isName_of_isSpelling {t : Token} (spelling : IsSpelling t.content t.lexeme.toList)
    (identifier : t.isIdentifier = true) : isName t.lexeme.toList = true := by
  rw [of_decide_eq_true identifier] at spelling
  exact isName_iff_isSpelling.2 spelling

theorem isNamePart_of_isName {s : List Char} (h : isName s = true) :
    ∀ c ∈ s, isNamePart c = true := by
  cases s with
  | nil => nofun
  | cons c cs =>
    obtain ⟨start, parts, -⟩ := isName_cons_iff.1 h
    exact List.forall_mem_cons.2 ⟨isNamePart_of_isNameStart start, parts⟩

namespace Piece

theorem read_isName {c : Char} {cs rest : List Char} (h : isName (c :: cs) = true)
    (stops : Stops isNamePart rest) :
    read c (cs ++ rest) = .ok (.token .identifier (c :: cs), rest) := by
  obtain ⟨start, parts, content⟩ := isName_cons_iff.1 h
  obtain ⟨blank, detached, decimal⟩ := classes_of_isNameStart start
  rw [read_name start blank detached decimal parts stops, content]

/-- Only a slash may be the start of something else. -/
theorem read_mark {m : Mark} (h : m ≠ .slash) (cs : List Char) :
    read m.char cs = .ok (.token (.mark m) [m.char], cs) := by
  have slash : m.char = '/' → m = .slash := by cases m <;> decide
  exact ReadAs.eq (.mark m rfl fun eq => absurd (slash eq) h)

end Piece

namespace Yields

variable {t : Token} {ts : List Token} {rest : List Char}

theorem name (isName : isName t.lexeme.toList = true) (identifier : t.isIdentifier = true)
    (stops : Stops isNamePart rest) (h : Yields rest ts) :
    Yields (t.lexeme.toList ++ rest) (t :: ts) := by
  cases text : t.lexeme.toList with
  | nil => simp [text, ComponentMarkup.isName] at isName
  | cons c cs =>
    rw [text] at isName
    refine (token_iff (Piece.read_isName isName stops)).2 ⟨?_, h⟩
    rw [Token.spelled, of_decide_eq_true identifier, ← text, String.ofList_toList]

theorem mark {m : Mark} (isMark : t.isMark m = true) (lexeme : t.lexeme = .singleton m.char)
    (noSlash : m ≠ .slash) (h : Yields rest ts) : Yields (t.lexeme.toList ++ rest) (t :: ts) := by
  rw [lexeme, String.toList_singleton]
  refine (token_iff (Piece.read_mark noSlash rest)).2 ⟨?_, h⟩
  rw [Token.spelled, of_decide_eq_true isMark, lexeme]
  rfl

end Yields

end ComponentMarkup
