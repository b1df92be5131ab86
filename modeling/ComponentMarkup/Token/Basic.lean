import ComponentMarkup.Source.Location
import ComponentMarkup.Token.Mark
import ComponentMarkup.Value

/-!
# Tokens

## Main definitions

* `Content` — what a token is, with the value that it stands for.
* `TokenKind` — what a token is, without the value.
* `Token` — content, spelling and place.
-/

namespace ComponentMarkup

open Source (Location Span)

inductive Content where
  | eof
  | integer (n : Nat)
  | float (x : Decimal.Binary64)
  | string (s : List Text.CodePoint)
  | boolean (b : Bool)
  | identifier
  | mark (m : Mark)
deriving DecidableEq

inductive TokenKind where
  | eof
  | integer
  | float
  | string
  | boolean (b : Bool)
  | identifier
  | mark (m : Mark)
deriving DecidableEq

namespace TokenKind

def name : TokenKind → String
  | eof => "EOF"
  | integer => "INTEGER"
  | float => "FLOAT"
  | string => "STRING"
  | boolean true => "TRUE"
  | boolean false => "FALSE"
  | identifier => "IDENTIFIER"
  | mark m => m.name

def all : List TokenKind :=
  [eof, integer, float, string, boolean true, boolean false, identifier] ++ Mark.all.map mark

def ofName? (s : String) : Option TokenKind := all.find? (·.name = s)

end TokenKind

def Content.kind : Content → TokenKind
  | eof => .eof
  | integer _ => .integer
  | float _ => .float
  | string _ => .string
  | boolean b => .boolean b
  | identifier => .identifier
  | mark m => .mark m

/-- The value of a literal. -/
def Content.literal? : Content → Option Value
  | integer n => some (.integer n)
  | float x => some (.float x)
  | string s => some (.string s)
  | boolean b => some (.boolean b)
  | _ => none

structure Token where
  content : Content
  lexeme : String
  start : Location
deriving DecidableEq

namespace Token

def kind (t : Token) : TokenKind := t.content.kind

/-- An identifier stands for its own spelling. -/
def value? (t : Token) : Option Value :=
  match t.content with
  | .identifier => some (.ofString t.lexeme)
  | content => content.literal?

def mark? (t : Token) : Option Mark :=
  match t.content with
  | .mark m => some m
  | _ => none

def isMark (t : Token) (m : Mark) : Bool := t.content = .mark m

def isIdentifier (t : Token) : Bool := t.content = .identifier

def isLiteral (t : Token) : Bool := t.content.literal?.isSome

def stop (t : Token) : Location := t.start.after t.lexeme.toList

def span (t : Token) : Span := ⟨t.start, t.stop⟩

/-- From the start of one token to the end of another. -/
def spanTo (first last : Token) : Span := ⟨first.start, last.stop⟩

/-- The closer of the group that the token opens. -/
def opens? (t : Token) : Option Mark := t.mark?.bind Mark.closer?

/-- The mark, if it is one that closes a group. -/
def closes? (t : Token) : Option Mark := t.mark?.filter Mark.closes

/-- Kind and spelling, and the value where the spelling does not show it. -/
def text (t : Token) : String :=
  let spelling := Text.quoteString t.lexeme
  match t.content.literal? with
  | some value => s!"{t.kind.name}({spelling} -> {value.text})"
  | none => s!"{t.kind.name}({spelling})"

/-- All four parts. -/
def describe (t : Token) : String :=
  let value := match t.value? with
    | some value => value.text
    | none => "None"
  s!"Token({t.kind.name}, {Text.quoteString t.lexeme}, {value}, {t.start.describe})"

/-- The token at the end of a source. -/
def atEnd (l : Location) : Token := ⟨.eof, "", l⟩

end Token

end ComponentMarkup
