import ComponentMarkup.Schema.Path
import ComponentMarkup.Tag.Node

/-!
# Rendering expressions

The text of an expression in emitted code.

## Main definitions

* `renderTokens` — tokens as they were spelled, with a point for `::`. Tokens that touched each
  other still do, and any gap becomes one space.
* `Expression.render` — an expression.
* `Node.render` — any node; only expressions have a text.
-/

namespace ComponentMarkup

open Source (Location)

/-- Strings and booleans are written anew, all else as it was spelled. -/
def Token.render (t : Token) : String :=
  match t.content with
  | .string s => (Value.string s).text
  | .boolean b => (Value.boolean b).text
  | _ => t.lexeme

/-- A token's text, or a point, with its place. -/
structure RenderedPiece where
  text : String
  start : Location
  stop : Location

namespace RenderedPiece

/-- Two colons in a row are one point, wherever they stand. -/
def ofTokens : List Token → List RenderedPiece
  | a :: b :: ts =>
    if a.isMark .colon && b.isMark .colon then ⟨".", a.start, b.stop⟩ :: ofTokens ts
    else ⟨a.render, a.start, a.stop⟩ :: ofTokens (b :: ts)
  | [a] => [⟨a.render, a.start, a.stop⟩]
  | [] => []

/-- The text behind a piece that stops at the offset `stop`. -/
def joinAfter (stop : Nat) : List RenderedPiece → String
  | [] => ""
  | p :: ps =>
    (if p.start.offset = stop then "" else " ") ++ p.text ++ joinAfter p.stop.offset ps

def join : List RenderedPiece → String
  | [] => ""
  | p :: ps => p.text ++ joinAfter p.stop.offset ps

/-- No gap is written in front of the first piece. -/
theorem join_eq_joinAfter (ps : List RenderedPiece) :
    join ps = joinAfter ((ps.head?.map (·.start.offset)).getD 0) ps := by
  cases ps with
  | nil => rfl
  | cons p ps => simp [join, joinAfter]

end RenderedPiece

def renderTokens (ts : List Token) : String := RenderedPiece.join (RenderedPiece.ofTokens ts)

def Expression.render : Expression → String
  | literal value _ => value.text
  | path p => Path.dotted p.text
  | call callee arguments _ => s!"{Path.dotted callee.text}({renderTokens arguments})"
  | block tokens _ => s!"({renderTokens tokens})"

def Node.render : Node → Except String String
  | expression e => .ok e.render
  | n => .error s!"cannot render {n.describe} as a property value"

end ComponentMarkup
