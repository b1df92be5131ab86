import ComponentMarkup.Source.Diagnostic
import ComponentMarkup.Token.Basic

/-!
# Syntax errors and warnings

## Main definitions

* `ParseErrorKind` — what went wrong.
* `ParseError` — the report of it.
* `ParseError.reanchored` — the same report at another token.
* `Warning` — a report that stops nothing.
-/

namespace ComponentMarkup

open Source (Diagnostic Location Span)

inductive ParseErrorKind where
  | unexpectedToken
  | unexpectedEnd
  | unclosedDelimiter
  | malformedTag
  | reservedLabel
  | qualifiedLabel
  | duplicateLabel
  | delegateKeywordMismatch
deriving DecidableEq, Repr

namespace ParseErrorKind

def name : ParseErrorKind → String
  | unexpectedToken => "unexpected_token"
  | unexpectedEnd => "unexpected_eof"
  | unclosedDelimiter => "unclosed_delimiter"
  | malformedTag => "malformed_tag"
  | reservedLabel => "reserved_label"
  | qualifiedLabel => "qualified_label"
  | duplicateLabel => "duplicate_label"
  | delegateKeywordMismatch => "delegate_keyword_mismatch"

def all : List ParseErrorKind :=
  [unexpectedToken, unexpectedEnd, unclosedDelimiter, malformedTag, reservedLabel, qualifiedLabel,
   duplicateLabel, delegateKeywordMismatch]

def ofName? (s : String) : Option ParseErrorKind := all.find? (·.name = s)

end ParseErrorKind

structure ParseError where
  kind : ParseErrorKind := .unexpectedToken
  diagnostic : Diagnostic
  token : Option Token := none
  /-- Where the error was before it was reported at another token. -/
  cause : Option Location := none
deriving DecidableEq

namespace ParseError

def location (e : ParseError) : Location := e.diagnostic.location

def span (e : ParseError) : Option Span := e.diagnostic.span

/-- The same error, reported at `t`. -/
def reanchored (e : ParseError) (t : Token) : ParseError where
  kind := e.kind
  diagnostic := {
    message := e.diagnostic.message
    location := t.start
    code := e.diagnostic.code
    help := e.diagnostic.help
    suggestions := e.diagnostic.suggestions
    span := t.span }
  token := t

def causedAt (e : ParseError) (l : Location) : ParseError := { e with cause := l }

def unexpectedToken (expected : String) (found : Token) : ParseError where
  diagnostic := {
    message := s!"expected {expected}, found `{found.lexeme}`"
    location := found.start
    code := "P001"
    help := s!"The parser expected to see {expected} at this position."
    span := found.span }
  token := found

def trailingToken (found : Token) : ParseError where
  diagnostic := {
    message := s!"unexpected token `{found.lexeme}`"
    location := found.start
    code := "P001"
    help := "Component tags only accept a type path followed by properties."
    span := found.span }
  token := found

def unexpectedEnd (expected : String) (l : Location) : ParseError where
  kind := .unexpectedEnd
  diagnostic := {
    message := s!"unexpected end of input, expected {expected}"
    location := l
    code := "P010"
    help := s!"The input ended while the parser was expecting {expected}."
    suggestions := some [s!"Add the missing {expected}"] }

@[simp] theorem kind_unexpectedToken (expected : String) (found : Token) :
    (unexpectedToken expected found).kind = .unexpectedToken := rfl

@[simp] theorem token_unexpectedToken (expected : String) (found : Token) :
    (unexpectedToken expected found).token = some found := rfl

@[simp] theorem location_unexpectedToken (expected : String) (found : Token) :
    (unexpectedToken expected found).location = found.start := rfl

/-- The closing counterpart of an opening bracket's spelling. -/
def closingSpelling (opener : String) : String :=
  if opener = "(" then ")" else if opener = "[" then "]" else if opener = "\x7b" then "\x7d"
  else opener

/-- Reported at `l`, where the tokens end. -/
def unclosedDelimiter (opener : Token) (l : Location) : ParseError where
  kind := .unclosedDelimiter
  diagnostic := {
    message := s!"unclosed delimiter `{opener.lexeme}`"
    location := l
    code := "P004"
    help := s!"The opening '{opener.lexeme}' at {opener.start.text} was never closed."
    suggestions := some [s!"Add a closing '{closingSpelling opener.lexeme}'"] }
  token := opener

@[simp] theorem kind_unclosedDelimiter (opener : Token) (l : Location) :
    (unclosedDelimiter opener l).kind = .unclosedDelimiter := rfl

@[simp] theorem token_unclosedDelimiter (opener : Token) (l : Location) :
    (unclosedDelimiter opener l).token = some opener := rfl

@[simp] theorem location_unclosedDelimiter (opener : Token) (l : Location) :
    (unclosedDelimiter opener l).location = l := rfl

def malformedTag (opener closer : Token) : ParseError where
  kind := .malformedTag
  diagnostic := {
    message := "expected component tag be of form `< .. />`"
    location := opener.start
    code := "P020"
    help := "Component tags cannot have children; close them with `/>`."
    span := opener.spanTo closer }
  token := opener

def reservedLabel (name : Token) (span : Span) (reserved : String) : ParseError where
  kind := .reservedLabel
  diagnostic := {
    message := "expected identifier"
    location := span.start
    code := "P021"
    help := s!"`{reserved}` is reserved for element tags and cannot be a component property."
    span := span }
  token := name

def underscored (s : String) : String :=
  .ofList (s.toList.map fun c => if c = '-' then '_' else c)

def qualifiedLabel (name : Token) (span : Span) (text : String) : ParseError where
  kind := .qualifiedLabel
  diagnostic := {
    message := "expected identifier"
    location := span.start
    code := "P022"
    help := s!"`{text}` is a dashed attribute name; component properties must be plain identifiers."
    suggestions := some [s!"Use `{underscored text}`"]
    span := span }
  token := name

def duplicateLabel (name : Token) (span : Span) (text : String) (first : Location) :
    ParseError where
  kind := .duplicateLabel
  diagnostic := {
    message := s!"property `{text}` is declared more than once"
    location := span.start
    code := "P024"
    help := s!"`{text}` was first declared at {first.text}."
    suggestions := some ["Remove one of the declarations"]
    span := span }
  token := name

def delegateKeywordMismatch (found : Token) (keyword : String) : ParseError where
  kind := .delegateKeywordMismatch
  diagnostic := {
    message := s!"expected to find `{keyword}` token"
    location := found.start
    code := "P023"
    help := s!"Pass a pre-built properties value with `{keyword} <name>`."
    span := found.span }
  token := found

end ParseError

structure Warning where
  diagnostic : Diagnostic
  token : Option Token := none
deriving DecidableEq

namespace Warning

def overriddenLabel (name : Token) (span : Span) (text : String) (winner : Location) :
    Warning where
  diagnostic := {
    message := s!"property `{text}` is overridden by a later declaration"
    location := span.start
    severity := "warning"
    code := "P030"
    help := s!"The declaration at {winner.text} is used instead."
    span := span }
  token := name

end Warning

end ComponentMarkup
