import ComponentMarkup.Tag.Stream

/-!
# Expressions

The value of a property: a literal, a path, a call or a block. What stands between the brackets of
a call or a block is kept token by token.

## Main definitions

* `ValuePath` — names joined by `::` or by points.
* `Expression` — the four forms.
* `Parser.expression` — reads one.
-/

namespace ComponentMarkup

open Source (Span)

inductive Separator where
  | colons
  | dot
deriving DecidableEq, Repr

def Separator.text : Separator → String
  | colons => "::"
  | dot => "."

structure ValuePath where
  leadingColons : Bool
  first : String
  more : List (Separator × String)
  span : Span
deriving DecidableEq

namespace ValuePath

def segments (p : ValuePath) : List String := p.first :: p.more.map (·.2)

def separators (p : ValuePath) : List String := p.more.map (·.1.text)

def text (p : ValuePath) : String :=
  (if p.leadingColons then "::" else "") ++ p.first ++
    String.join (p.more.map fun (separator, name) => separator.text ++ name)

end ValuePath

inductive Expression where
  | literal (value : Value) (span : Span)
  | path (path : ValuePath)
  | call (callee : ValuePath) (arguments : List Token) (span : Span)
  | block (tokens : List Token) (span : Span)
deriving DecidableEq

def Expression.span : Expression → Span
  | literal _ span => span
  | path p => p.span
  | call _ _ span => span
  | block _ span => span

namespace Parser

def negated? : Content → Option Value
  | .integer n => some (.integer (-n))
  | .float x => some (.float (-x))
  | _ => none

/-- A minus with its number. -/
def negativeNumber : Parser Expression := do
  let minus ← advance
  match ← peek with
  | none => unexpectedEnd "number"
  | some t =>
    match negated? t.content with
    | none => reject (.unexpectedToken "number" t)
    | some value =>
      let number ← advance
      return .literal value (minus.spanTo number)

/-- A separator with the name behind it; a single colon is none. -/
def pathSegment : Parser (Option (Separator × Token)) := do
  match ← ahead with
  | t :: ts =>
    if t.isMark .dot then
      seek ts
      return some (.dot, ← identifier "identifier")
    else if t.isMark .colon && ts.head?.any (·.isMark .colon) then
      seek (ts.drop 1)
      return some (.colons, ← identifier "identifier")
    else return none
  | [] => return none

/-- Whether a path starts with `::`, which is then taken; a colon has to be followed by another. -/
def leadingColons : Parser Bool := do
  if ← check (.mark .colon) then
    let _ ← consume (.mark .colon) "`::`"
    let _ ← consume (.mark .colon) "`::`"
    return true
  else return false

/-- A path that starts with the token `start`. -/
def valuePath (start : Token) : Parser ValuePath := do
  let leadingColons ← leadingColons
  let first ← identifier "identifier"
  let more ← many pathSegment
  let last := (more.getLast?.map (·.2)).getD first
  return {
    leadingColons
    first := first.lexeme
    more := more.map fun (separator, name) => (separator, name.lexeme)
    span := start.spanTo last }

/-- A path, or a call if a parenthesis follows it. -/
def pathOrCall (start : Token) : Parser Expression := do
  let path ← valuePath start
  if ← check (.mark .leftParen) then
    let g ← group
    return .call path g.inside ⟨path.span.start, g.closer.stop⟩
  else return .path path

def block : Parser Expression := do
  let g ← group
  return .block g.inside (g.opener.spanTo g.closer)

def expression : Parser Expression := do
  match ← peek with
  | none => unexpectedEnd "expression"
  | some t =>
    match t.content.literal? with
    | some value =>
      let literal ← advance
      return .literal value literal.span
    | none =>
      if t.isMark .minus then negativeNumber
      else if t.isMark .leftBrace then block
      else if t.isIdentifier || t.isMark .colon then pathOrCall t
      else reject (.unexpectedToken "expression" t)

end Parser

end ComponentMarkup
