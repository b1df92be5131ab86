import ComponentMarkup.Text.CodePoint
import ComponentMarkup.Text.Hex

/-!
# String literals

A string stands between double quotes and may run over several lines. A backslash takes the
character behind it along, so an escaped quote does not end the string.

## Main definitions

* `StringLiteral.split?` — what stands before the closing quote, and what behind it.
* `StringLiteral.decode` — the value of what stands between the quotes.
-/

namespace ComponentMarkup

namespace StringLiteral

open Text (CodePoint)

/-- `none` when the text ends before the string does. -/
def split? : List Char → Option (List Char × List Char)
  | [] => none
  | '"' :: cs => some ([], cs)
  | ['\\'] => none
  | '\\' :: c :: cs => (split? cs).map fun (body, rest) => ('\\' :: c :: body, rest)
  | c :: cs => (split? cs).map fun (body, rest) => (c :: body, rest)

theorem append_of_split? {s body rest : List Char} (h : split? s = some (body, rest)) :
    body ++ '"' :: rest = s := by
  fun_induction split? s generalizing body with
  | case1 => cases h
  | case2 => cases h; rfl
  | case3 => cases h
  | case4 c cs ih =>
    obtain ⟨⟨b, r⟩, hr, eq⟩ := Option.map_eq_some_iff.1 h
    cases eq
    simp [ih hr]
  | case5 c cs _ _ _ ih =>
    obtain ⟨⟨b, r⟩, hr, eq⟩ := Option.map_eq_some_iff.1 h
    cases eq
    simp [ih hr]

/-- The character that a backslash and `c` stand for; a character without such a meaning stands for
itself. -/
def unescape (c : Char) : Char :=
  match c with
  | 'n' => '\n'
  | 't' => '\t'
  | 'r' => '\r'
  | '0' => '\x00'
  | c => c

/-- The code point that four hexadecimal digits number. -/
def byNumber? (a b c d : Char) : Option CodePoint := do
  let a ← Text.hexValue? a
  let b ← Text.hexValue? b
  let c ← Text.hexValue? c
  let d ← Text.hexValue? d
  let n := ((a * 16 + b) * 16 + c) * 16 + d
  if h : n < 0x110000 then some ⟨n, h⟩ else none

def decode : List Char → List CodePoint
  | [] => []
  | '\\' :: 'u' :: a :: b :: c :: d :: cs =>
    match byNumber? a b c d with
    | some p => p :: decode cs
    | none => .ofChar 'u' :: decode (a :: b :: c :: d :: cs)
  | '\\' :: c :: cs => .ofChar (unescape c) :: decode cs
  | c :: cs => .ofChar c :: decode cs
termination_by s => s.length

end StringLiteral

end ComponentMarkup
