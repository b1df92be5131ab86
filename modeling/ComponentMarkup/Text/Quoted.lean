import ComponentMarkup.Text.CodePoint
import ComponentMarkup.Text.Hex
import ComponentMarkup.Text.Printable

/-!
# Quoted text

The written form of a string value in emitted code and in messages. It is one line of printable
characters whatever the value holds.

## Main definitions

* `Quoted.mark` — the quotation mark that a value is written between.
* `Quoted.escape` — the written form of one code point.
* `quote` — the whole written form.
-/

namespace ComponentMarkup.Text

namespace Quoted

/-- The apostrophe, unless the value has one and has no double quote. -/
def mark (s : List CodePoint) : Char :=
  if .ofChar '\'' ∈ s && .ofChar '"' ∉ s then '"' else '\''

/-- An escape by number, as short as the code point allows. -/
def byNumber (n : Nat) : List Char :=
  if n < 0x100 then '\\' :: 'x' :: hexDigits 2 n
  else if n < 0x10000 then '\\' :: 'u' :: hexDigits 4 n
  else '\\' :: 'U' :: hexDigits 8 n

def escape (mark : Char) (p : CodePoint) : List Char :=
  match p.toChar? with
  | none => byNumber p.val
  | some c =>
    if c = mark || c = '\\' then ['\\', c]
    else if c = '\n' then ['\\', 'n']
    else if c = '\r' then ['\\', 'r']
    else if c = '\t' then ['\\', 't']
    else if isPrintable c.toNat then [c]
    else byNumber c.toNat

end Quoted

def quote (s : List CodePoint) : List Char :=
  Quoted.mark s :: s.flatMap (Quoted.escape (Quoted.mark s)) ++ [Quoted.mark s]

/-- The written form of a string that holds no surrogates. -/
def quoteString (s : String) : String := .ofList (quote (s.toList.map .ofChar))

end ComponentMarkup.Text
