import ComponentMarkup.Cursor
import ComponentMarkup.Tag.Stream

/-!
# Classification

A tag whose `<` is followed by a type path that is not all in lowercase is a component; any other
tag is an element.

## Main definitions

* `Classification` — where a tag was looked at, and the component that it names.
* `TokenStream.classify?`, `Cursor.classify?` — of the tag behind a `<`.
* `TokenStream.classifyTag?`, `Cursor.classifyTag?` — of the tag at a `<`.
-/

namespace ComponentMarkup

open Source (Location)

structure Classification where
  location : Location
  component? : Option String
deriving DecidableEq

namespace Classification

def isComponent (c : Classification) : Bool := c.component?.isSome

def note (c : Classification) : Note where
  channel := .component
  message :=
    let sort := if c.isComponent then "component" else "element"
    s!"classified tag at {c.location.text} as {sort}"

end Classification

namespace TokenStream

def classify (s : TokenStream) : Classification :=
  ⟨s.location, Lookahead.componentName? s.ahead⟩

/-- `none` unless the stream is at a `<`. -/
def classifyTag? (s : TokenStream) : Option Classification :=
  (Lookahead.mark? .lessThan s.ahead).map fun rest => classify { s with ahead := rest }

end TokenStream

namespace Cursor

/-- `none` if there is no token whose location could be told. -/
def classify? (c : Cursor) : Option Classification :=
  c.location?.map fun l => ⟨l, Lookahead.componentName? c.ahead⟩

def classifyTag? (c : Cursor) : Option Classification :=
  (Lookahead.mark? .lessThan c.ahead).bind fun rest => (c.before rest).classify?

end Cursor

end ComponentMarkup
