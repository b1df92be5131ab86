import ComponentMarkup.Journal
import ComponentMarkup.Tag.ParseError
import ComponentMarkup.Token.Group
import ComponentMarkup.Token.Lexing

/-!
# Token streams

A stream is what a tag is read from: the tokens ahead, and where they end. A parser that fails
leaves the stream where it failed.

## Main definitions

* `TokenStream` — the tokens ahead, the warnings so far and the journal so far.
* `Failure` — why a parser fails.
* `Parser` — what reads a stream.
* `Parser.many` — reads as often as it can.
-/

namespace ComponentMarkup

open Source (Location)

structure TokenStream where
  ahead : List Token
  /-- Where whatever follows the tokens starts. -/
  stop : Location
  warnings : List Warning := []
  journal : Journal := []
deriving DecidableEq

namespace TokenStream

def ofLexing (x : Lexing) : TokenStream := ⟨x.tokens, x.stop, [], []⟩

/-- Where the next token starts, or what follows the last one. -/
def location (s : TokenStream) : Location :=
  match s.ahead with
  | t :: _ => t.start
  | [] => s.stop

end TokenStream

inductive Failure where
  | rejected (e : ParseError)
  /-- A group is asked for where the tokens end. -/
  | nothingToSkip
  /-- A group is asked for where none starts, and a closer comes while none is due. -/
  | strayCloser (found : Token)
deriving DecidableEq

abbrev Parser := EStateM Failure TokenStream

namespace Parser

def reject {α : Type} (e : ParseError) : Parser α := throw (.rejected e)

def peek : Parser (Option Token) := return (← get).ahead.head?

def ahead : Parser (List Token) := return (← get).ahead

def location : Parser Location := return (← get).location

def seek (ts : List Token) : Parser Unit := modify fun s => { s with ahead := ts }

def warn (ws : List Warning) : Parser Unit :=
  modify fun s => { s with warnings := s.warnings ++ ws }

def record (channel : Channel) (message : String) : Parser Unit :=
  modify fun s => { s with journal := s.journal ++ [⟨channel, message⟩] }

def unexpectedEnd {α : Type} (expected : String) : Parser α := do
  reject (.unexpectedEnd expected (← location))

def advance : Parser Token := do
  match ← ahead with
  | [] => unexpectedEnd "token"
  | t :: ts =>
    seek ts
    return t

def check (kind : TokenKind) : Parser Bool := return (← peek).any (·.kind = kind)

/-- The next token if it is of the kind. -/
def accept (kind : TokenKind) : Parser (Option Token) := do
  if ← check kind then some <$> advance else return none

/-- The next token, which has to be of the kind; `expected` says so in errors, or the name of the
kind if it is empty. -/
def consume (kind : TokenKind) (expected : String) : Parser Token := do
  let expected := if expected.isEmpty then kind.name else expected
  match ← peek with
  | none => unexpectedEnd expected
  | some t => if t.kind = kind then advance else reject (.unexpectedToken expected t)

def mark (m : Mark) : Parser Token := consume (.mark m) s!"`{m.char}`"

def identifier (expected : String) : Parser Token := consume .identifier expected

/-- Why no group starts the tokens. Reading one stops at a closer while none is due; any other fault
is looked for anew, with no closer due before the first token. -/
def groupFailure (stop : Location) (fault : GroupFault) (ts : List Token) : Failure :=
  match fault, ts with
  | .stray found, _ => .strayCloser found
  | _, [] => .nothingToSkip
  | _, t :: ts =>
    match Group.fault [] (t :: ts) with
    | .mismatch due found => .rejected (.unexpectedToken s!"`{due.char}`" found)
    | .stray found => .strayCloser found
    | .notOpened | .unclosed => .rejected (.unclosedDelimiter t stop)

def group : Parser Group := do
  let s ← get
  match Group.read s.ahead with
  | .ok (g, rest) =>
    seek rest
    return g
  | .error fault => throw (groupFailure s.stop fault s.ahead)

/-- Goes on while `p` finds something and takes a token for it. -/
def many {α : Type} (p : Parser (Option α)) (s : TokenStream) :
    EStateM.Result Failure TokenStream (List α) :=
  match p.run s with
  | .ok none s => .ok [] s
  | .error e s => .error e s
  | .ok (some a) rest =>
    if _h : rest.ahead.length < s.ahead.length then
      match many p rest with
      | .ok more s => .ok (a :: more) s
      | .error e s => .error e s
    else .ok [a] rest
termination_by s.ahead.length

end Parser

end ComponentMarkup
