import ComponentMarkup.Journal
import ComponentMarkup.Token.Piece

/-!
# The tokens of a source

The pieces of a source, each at its place: the tokens, and an error for each fault.

## Main definitions

* `LexError` — a fault at its place.
* `Lexing` — tokens, errors and the place of the end.
* `Lexing.ofSource` — of a source that can be cut into pieces.
* `tokens` — the tokens of a source without faults.
-/

namespace ComponentMarkup

open Source (Diagnostic Location)

structure LexError where
  fault : Fault
  location : Location
deriving DecidableEq

namespace LexError

def invalidNumber (lexeme : List Char) (reason : String) (l : Location) : Diagnostic where
  message := s!"Invalid numeric literal: '{String.ofList lexeme}'"
  location := l
  code := "L003"
  help := reason

def diagnostic (e : LexError) : Diagnostic :=
  match e.fault with
  | .invalidCharacter c => {
      message := s!"Invalid character: '{c}'"
      location := e.location
      code := "L001"
      help :=
        if Text.isPrintable c.toNat then s!"The character '{c}' is not valid in markup source."
        else s!"Non-printable character (Unicode: {Text.chartName c.toNat}) is not allowed." }
  | .unterminatedString => {
      message := "Unterminated string literal"
      location := e.location
      code := "L002"
      help := "String literals must be closed with a matching '\"' quote."
      suggestions :=
        some ["Add a closing '\"' quote", "Check for unescaped quotes in the string"] }
  | .trailingUnderscore lexeme =>
    invalidNumber lexeme "Numeric literals cannot end with '_'" e.location
  | .outOfRange lexeme =>
    invalidNumber lexeme "Floating-point literal is out of range" e.location

end LexError

structure Lexing where
  /-- The tokens before the end. -/
  tokens : List Token
  errors : List LexError
  stop : Location
deriving DecidableEq

namespace Lexing

/-- The pieces from `l` on, each placed behind the one before it. -/
def ofPieces (l : Location) : List Piece → Lexing
  | [] => ⟨[], [], l⟩
  | p :: ps =>
    let rest := ofPieces (l.after p.text) ps
    match p with
    | .gap _ => rest
    | .token content lexeme =>
      { rest with tokens := ⟨content, .ofList lexeme, l⟩ :: rest.tokens }
    | .fault fault _ => { rest with errors := ⟨fault, l⟩ :: rest.errors }

def ofSource (file : String) (source : List Char) : Except Abort Lexing :=
  (pieces source).map (ofPieces (.start file))

/-- The tokens and the end. -/
def all (x : Lexing) : List Token := x.tokens ++ [.atEnd x.stop]

def note (x : Lexing) : Note where
  channel := .lexing
  message :=
    s!"lexed {x.all.length} tokens from {x.stop.file} ({x.errors.length} errors)"

/-- The first error, if there is one. -/
def checked (x : Lexing) : Except LexError Lexing :=
  match x.errors with
  | [] => .ok x
  | e :: _ => .error e

end Lexing

/-- Why a source has no tokens. -/
inductive LexFailure where
  | abort (a : Abort)
  | fault (e : LexError)
deriving DecidableEq

def lex (file : String) (source : String) : Except LexFailure Lexing :=
  match Lexing.ofSource file source.toList with
  | .error a => .error (.abort a)
  | .ok x => x.checked.mapError .fault

end ComponentMarkup
