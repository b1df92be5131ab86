import ComponentMarkup.Schema.Registry
import ComponentMarkup.Tag.Node
import ComponentMarkup.Text.Similar

/-!
# Validation

A tag is checked against a registry before anything is built for it: its type has to be a component,
and the properties that it declares have to be fields of that component.

## Main definitions

* `SemanticError` — the report of a violation.
* `Report` — all violations of a tag, and its type if that is a component.
* `Registry.validate` — the report of a tag.

## Main statements

* `Registry.properties?_validate` — the schema that a tag is checked against.
-/

namespace ComponentMarkup

open Source (Diagnostic Location)

structure SemanticError where
  diagnostic : Diagnostic
  node : Option NodeKind := none
  related : List Location := []
deriving DecidableEq

namespace SemanticError

def text (e : SemanticError) : String :=
  e.diagnostic.text ++
    if e.related.isEmpty then ""
    else "\nRelated locations:\n" ++ String.join (e.related.map fun l => s!"  --> {l.text}\n")

def didYouMean (names : List String) : List String :=
  (names.take 3).map fun name => s!"Did you mean '{name}'?"

def unknownType (p : TypePath) (names : List String) : SemanticError where
  diagnostic := {
    message := s!"cannot find type `{p.text}` in this scope"
    location := p.span.start
    code := "S002"
    help := s!"No type named '{p.text}' is known to the schema registry."
    suggestions := didYouMean names ++ ["Check that the component is registered and imported"]
    span := p.span }
  node := some .typePath

def notAComponent (p : TypePath) (kind : TypeKind) : SemanticError where
  diagnostic := {
    message := s!"the type `{p.text}` is not a component"
    location := p.span.start
    code := "S006"
    help := s!"'{p.text}' is a {kind.name} type; only component types can be used as tags."
    span := p.span }
  node := some .typePath

def unknownProperty (l : Label) (properties : String) (names : List String) :
    SemanticError where
  diagnostic := {
    message := s!"no field `{l.text}` on type `{properties}`"
    location := l.span.start
    code := "S010"
    help := s!"'{properties}' does not declare a property named '{l.text}'."
    suggestions := didYouMean names
    span := l.span }
  node := some .label

end SemanticError

structure Report where
  tag : ComponentTag
  type? : Option TypeInfo
  errors : List SemanticError
deriving DecidableEq

namespace Report

def isOk (r : Report) : Bool := r.errors.isEmpty

def note (r : Report) : Note where
  channel := .validation
  message := s!"validated {r.tag.typePath.text}: {r.errors.length} error(s)"

/-- The first violation, if there is one. -/
def checked (r : Report) : Except SemanticError Report :=
  match r.errors with
  | [] => .ok r
  | e :: _ => .error e

end Report

namespace Schema

/-- The violation of a property that is no field. -/
def check? (s : Schema) (p : Property) : Option SemanticError :=
  if s.hasField p.key then none
  else some (.unknownProperty p.label s.name (Text.similar p.key s.fieldNames))

/-- Delegates are not looked into. -/
def check (s : Schema) : Option PropertySpec → List SemanticError
  | some (.list l) => l.properties.filterMap s.check?
  | _ => []

end Schema

namespace Registry

def validate (r : Registry) (c : ComponentTag) : Report :=
  let path := c.typePath
  match r.lookup? path.text with
  | none => ⟨c, none, [.unknownType path (Text.similar path.text r.knownPaths)]⟩
  | some info =>
    match info.properties? with
    | none => ⟨c, none, [.notAComponent path info.kind]⟩
    | some schema => ⟨c, some info, schema.check c.properties⟩

/-- A report names a type exactly if the path leads to a component. -/
theorem properties?_validate (r : Registry) (c : ComponentTag) :
    (r.validate c).type?.bind TypeInfo.properties? =
      (r.lookup? c.typePath.text).bind TypeInfo.properties? := by
  unfold validate
  cases found : r.lookup? c.typePath.text with
  | none => simp [found]
  | some info => cases properties : info.properties? <;> simp [found, properties]

end Registry

end ComponentMarkup
