import ComponentMarkup.Text.LetterCase.Cased
import ComponentMarkup.Text.LetterCase.Lower
import ComponentMarkup.Text.LetterCase.Upper

/-!
# Letter case

The full lowercase and uppercase forms of a text, which may differ from it in length.

## Main definitions

* `lowercase` — a capital sigma becomes the final `ς` after a cased character and not before one,
  ignorable characters skipped on both sides, and `σ` elsewhere.
* `uppercase` — character by character.
-/

namespace ComponentMarkup.Text

/-- Whether the first character that counts is a cased one. -/
def meetsCased : List Char → Bool
  | [] => false
  | c :: cs => if isCaseIgnorable c then meetsCased cs else isCased c

def lowerChar (c : Char) : List Char :=
  if c = 'İ' then ['i', '\u0307'] else [.ofNat (CaseShift.apply lowerShifts c.toNat)]

/-- The lowercase form of a text that stands after `before`, nearest character first. -/
def lowercaseAfter (before : List Char) : List Char → List Char
  | [] => []
  | c :: cs =>
    (if c = 'Σ' then [if meetsCased before && !meetsCased cs then 'ς' else 'σ'] else lowerChar c)
      ++ lowercaseAfter (c :: before) cs

def lowercase (s : List Char) : List Char := lowercaseAfter [] s

def upperChar (c : Char) : List Char :=
  match longUppers.lookup c.toNat with
  | some form => form.map .ofNat
  | none => [.ofNat (CaseShift.apply upperShifts c.toNat)]

def uppercase (s : List Char) : List Char := s.flatMap upperChar

end ComponentMarkup.Text
