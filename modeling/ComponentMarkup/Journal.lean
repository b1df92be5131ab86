/-!
# The journal

Every stage notes what it did. The notes go to named channels and are all of the lowest level.

## Main definitions

* `Channel` — who writes.
* `Note` — one line of the journal.
-/

namespace ComponentMarkup

inductive Channel where
  | schema
  | lexing
  | properties
  | component
  | validation
  | construction
  | compilation
deriving DecidableEq, Repr

namespace Channel

/-- The channel that all others are below. -/
def root : String := "markupc"

def name : Channel → String
  | schema => "markupc.analyzer.schema"
  | lexing => "markupc.lexer.lexer"
  | properties => "markupc.parser.props"
  | component => "markupc.parser.component"
  | validation => "markupc.analyzer.validator"
  | construction => "markupc.ir.ir_generator"
  | compilation => "markupc.driver"

/-- The name of the channel that is asked for; without a name it is the root. -/
def nameOf (asked : Option String) : String := (asked.filter (!·.isEmpty)).getD root

end Channel

structure Note where
  channel : Channel
  message : String
deriving DecidableEq, Repr

namespace Note

def level : String := "DEBUG"

end Note

abbrev Journal := List Note

end ComponentMarkup
