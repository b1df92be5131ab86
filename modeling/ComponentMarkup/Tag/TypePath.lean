import ComponentMarkup.Tag.Stream
import ComponentMarkup.Token.Lookahead

/-!
# Type paths

The reference to a component type: names joined by `::`, with a `::` in front of them or without.

## Main definitions

* `TypePath` — at least one name.
* `TypePath.ofNames` — fails without names.
* `Parser.typePath` — reads one.
-/

namespace ComponentMarkup

open Source (Span)

structure TypePath where
  leadingColons : Bool
  first : Token
  more : List Token
  span : Span
deriving DecidableEq

namespace TypePath

def names (p : TypePath) : List Token := p.first :: p.more

def segments (p : TypePath) : List String := p.names.map Token.lexeme

/-- The type's own name is the last one. -/
def name (p : TypePath) : String := (p.more.getLast?.getD p.first).lexeme

def text (p : TypePath) : String :=
  (if p.leadingColons then "::" else "") ++ "::".intercalate p.segments

def noNames : String := "a type path needs at least one segment"

def ofNames (leadingColons : Bool) (names : List Token) (span : Span) : Except String TypePath :=
  match names with
  | [] => .error noNames
  | first :: more => .ok ⟨leadingColons, first, more, span⟩

end TypePath

namespace Parser

/-- Whether `::` comes next, which is then taken. -/
def doubleColon : Parser Bool := do
  match Lookahead.doubleColon? (← ahead) with
  | some rest =>
    seek rest
    return true
  | none => return false

def typeSegment : Parser (Option Token) := do
  if ← doubleColon then some <$> identifier "identifier after `::`" else return none

def typePath : Parser TypePath := do
  let start ← peek
  let leadingColons ← doubleColon
  let first ← identifier "type name"
  let more ← many typeSegment
  let last := more.getLast?.getD first
  return ⟨leadingColons, first, more, (start.getD first).spanTo last⟩

end Parser

end ComponentMarkup
