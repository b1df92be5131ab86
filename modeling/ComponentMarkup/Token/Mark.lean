/-!
# Punctuation marks

Every mark is one character and a token of its own: `::` is two colons, `/>` a slash and a bracket.

## Main definitions

* `Mark` — the marks of the markup language.
* `Mark.ofChar?` — the mark of a character.
* `Mark.closer?` — the mark that closes the group which a mark opens.
-/

namespace ComponentMarkup

inductive Mark where
  | lessThan
  | greaterThan
  | slash
  | colon
  | comma
  | dot
  | assign
  | minus
  | plus
  | star
  | percent
  | bang
  | ampersand
  | pipe
  | question
  | semicolon
  | hash
  | at
  | leftParen
  | rightParen
  | leftBracket
  | rightBracket
  | leftBrace
  | rightBrace
deriving DecidableEq, Repr

namespace Mark

def all : List Mark :=
  [lessThan, greaterThan, slash, colon, comma, dot, assign, minus, plus, star, percent, bang,
   ampersand, pipe, question, semicolon, hash, .at, leftParen, rightParen, leftBracket,
   rightBracket, leftBrace, rightBrace]

theorem mem_all (m : Mark) : m ∈ all := by cases m <;> decide

def char : Mark → Char
  | lessThan => '<'
  | greaterThan => '>'
  | slash => '/'
  | colon => ':'
  | comma => ','
  | dot => '.'
  | assign => '='
  | minus => '-'
  | plus => '+'
  | star => '*'
  | percent => '%'
  | bang => '!'
  | ampersand => '&'
  | pipe => '|'
  | question => '?'
  | semicolon => ';'
  | hash => '#'
  | .at => '@'
  | leftParen => '('
  | rightParen => ')'
  | leftBracket => '['
  | rightBracket => ']'
  | leftBrace => '{'
  | rightBrace => '}'

def name : Mark → String
  | lessThan => "LESS_THAN"
  | greaterThan => "GREATER_THAN"
  | slash => "SLASH"
  | colon => "COLON"
  | comma => "COMMA"
  | dot => "DOT"
  | assign => "ASSIGN"
  | minus => "MINUS"
  | plus => "PLUS"
  | star => "STAR"
  | percent => "PERCENT"
  | bang => "BANG"
  | ampersand => "AMPERSAND"
  | pipe => "PIPE"
  | question => "QUESTION"
  | semicolon => "SEMICOLON"
  | hash => "HASH"
  | .at => "AT"
  | leftParen => "LEFT_PAREN"
  | rightParen => "RIGHT_PAREN"
  | leftBracket => "LEFT_BRACKET"
  | rightBracket => "RIGHT_BRACKET"
  | leftBrace => "LEFT_BRACE"
  | rightBrace => "RIGHT_BRACE"

def ofChar? (c : Char) : Option Mark := all.find? (·.char = c)

@[simp] theorem ofChar?_char (m : Mark) : ofChar? m.char = some m := by cases m <;> rfl

theorem char_of_ofChar? {c : Char} {m : Mark} (h : ofChar? c = some m) : m.char = c := by
  simpa using List.find?_some h

def closer? : Mark → Option Mark
  | leftParen => some rightParen
  | leftBracket => some rightBracket
  | leftBrace => some rightBrace
  | _ => none

/-- Whether the mark closes a group. -/
def closes : Mark → Bool
  | rightParen | rightBracket | rightBrace => true
  | _ => false

theorem closes_of_closer? {m c : Mark} (h : m.closer? = some c) : c.closes = true := by
  cases m <;> simp_all [closer?] <;> subst h <;> rfl

end Mark

end ComponentMarkup
