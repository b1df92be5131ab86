import ComponentMarkup.Text.LetterCase
import ComponentMarkup.Token.Basic

/-!
# Lookahead

What can be told from the tokens ahead without reading them.

## Main definitions

* `doubleColon?` — the tokens behind `::`.
* `DashedName`, `dashedName?` — names joined by dashes.
* `startsProperty` — whether a label with its `=` comes next.
* `typePath?`, `componentName?` — the longest type path, and its spelling if it names a component.
-/

namespace ComponentMarkup

namespace Lookahead

def mark? (m : Mark) : List Token → Option (List Token)
  | [] => none
  | t :: ts => if t.isMark m then some ts else none

def identifier? : List Token → Option (Token × List Token)
  | [] => none
  | t :: ts => if t.isIdentifier then some (t, ts) else none

def doubleColon? (ts : List Token) : Option (List Token) := (mark? .colon ts).bind (mark? .colon)

/-- As many dashes with a name behind them as there are. -/
def dashedTail : List Token → List Token × List Token
  | dash :: name :: ts =>
    if dash.isMark .minus && name.isIdentifier then
      let (names, rest) := dashedTail ts
      (name :: names, rest)
    else ([], dash :: name :: ts)
  | ts => ([], ts)

/-- `name(-name)*` with the first name, the others and the tokens behind. -/
def dashedName? (ts : List Token) : Option (Token × List Token × List Token) :=
  (identifier? ts).map fun (name, ts) => (name, dashedTail ts)

def startsProperty (ts : List Token) : Bool :=
  match dashedName? ts with
  | some (_, _, rest) => (mark? .assign rest).isSome
  | none => false

/-- As many `::` with a name behind them as there are. -/
def pathTail : List Token → List Token × List Token
  | a :: b :: name :: ts =>
    if a.isMark .colon && b.isMark .colon && name.isIdentifier then
      let (names, rest) := pathTail ts
      (name :: names, rest)
    else ([], a :: b :: name :: ts)
  | ts => ([], ts)

/-- The spelling of a type path; only its first `::` can be absent. -/
def spelling (leadingColons : Bool) (names : List Token) : String :=
  (if leadingColons then "::" else "") ++ "::".intercalate (names.map Token.lexeme)

/-- The spelling of the longest type path ahead. -/
def typePath? (ts : List Token) : Option String :=
  let (leadingColons, ts) := match doubleColon? ts with
    | some rest => (true, rest)
    | none => (false, ts)
  (identifier? ts).map fun (name, rest) => spelling leadingColons (name :: (pathTail rest).1)

/-- A type path names a component unless it is all in lowercase. -/
def isComponentName (path : String) : Bool := Text.lowercase path.toList ≠ path.toList

def componentName? (ts : List Token) : Option String := (typePath? ts).filter isComponentName

end Lookahead

end ComponentMarkup
