import ComponentMarkup.Decimal.Layout
import ComponentMarkup.Text.Quoted

/-!
# Values

The values that literals stand for.

## Main definitions

* `Value` — a string, an integer, a floating-point number or a boolean.
* `Value.sort` — the name of its sort.
* `Value.text` — its written form in emitted code.
-/

namespace ComponentMarkup

inductive Value where
  | string (s : List Text.CodePoint)
  | integer (n : Int)
  | float (x : Decimal.Binary64)
  | boolean (b : Bool)
deriving DecidableEq

namespace Value

def sort : Value → String
  | string _ => "string"
  | integer _ => "integer"
  | float _ => "float"
  | boolean _ => "boolean"

def text : Value → String
  | string s => .ofList (Text.quote s)
  | integer n => toString n
  | float x => x.text
  | boolean true => "True"
  | boolean false => "False"

/-- The value of a text without surrogates. -/
def ofString (s : String) : Value := string (s.toList.map .ofChar)

end Value

end ComponentMarkup
