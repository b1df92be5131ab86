import ComponentMarkup.Config
import ComponentMarkup.Construction.Conversion
import ComponentMarkup.Construction.Render
import ComponentMarkup.Schema.Registry

/-!
# Constructions

The code that builds a component: a line that makes a scope, and an expression for the node.

## Main definitions

* `RuntimeNames` — the names that emitted code uses.
* `Setter` — a field that is set on a builder of properties.
* `PropertiesValue` — the properties that a component is built with.
* `Construction` — the whole, with its source.
* `Construction.of?` — of a tag and the schema of its properties.
-/

namespace ComponentMarkup

structure RuntimeNames where
  runtimeModule : String
  scopeVariable : String
deriving DecidableEq

namespace RuntimeNames

def ofConfig (c : Config) : RuntimeNames := ⟨c.runtimeModule, c.scopeVariable⟩

/-- Without a module a name stands alone. -/
def qualify (n : RuntimeNames) (name : String) : String :=
  if n.runtimeModule.isEmpty then name else s!"{n.runtimeModule}.{name}"

end RuntimeNames

structure Setter where
  label : String
  value : String
  conversion : Conversion
deriving DecidableEq

namespace Setter

def convert (n : RuntimeNames) (value : String) : Conversion → String
  | .optional _ inner => convert n value inner
  | .identity _ => value
  | .ownedString _ => s!"str({value})"
  | .callback _ =>
    let name := n.qualify "VComp.callback"
    s!"{name}({n.scopeVariable}, {value})"
  | .generic _ =>
    let name := n.qualify "VComp.transform"
    s!"{name}({n.scopeVariable}, {value})"

def rendered (s : Setter) (n : RuntimeNames) : String := convert n s.value s.conversion

def source (s : Setter) (n : RuntimeNames) : String := s!".{s.label}({s.rendered n})"

def describe (s : Setter) : String :=
  let label := Text.quoteString s.label
  s!"FieldSetter({label}, {Text.quoteString s.value}, {s.conversion.text})"

end Setter

inductive PropertiesValue where
  | builder (componentType : String) (setters : List Setter)
  /-- A builder of which no field is set. -/
  | default (componentType : String)
  /-- A value that is passed on as it is. -/
  | delegate (name : String)
deriving DecidableEq

namespace PropertiesValue

def kind : PropertiesValue → String
  | builder .. => "properties_builder"
  | default _ => "default_properties"
  | delegate _ => "delegate_properties"

def setters : PropertiesValue → List Setter
  | builder _ setters => setters
  | _ => []

def builderSource (componentType : String) (setters : List Setter) (n : RuntimeNames) : String :=
  let chain := String.join (setters.map fun s => s.source n)
  s!"{Path.dotted componentType}.Properties.builder(){chain}.build()"

def source (p : PropertiesValue) (n : RuntimeNames) : String :=
  match p with
  | builder componentType setters => builderSource componentType setters n
  | default componentType => builderSource componentType [] n
  | delegate name => name

end PropertiesValue

structure Construction where
  componentType : String
  properties : PropertiesValue
  names : RuntimeNames
  metadata : List (String × String) := []
deriving DecidableEq

namespace Construction

def kind : String := "component"

def scope (c : Construction) : String :=
  let holder := c.names.qualify "ScopeHolder"
  s!"{c.names.scopeVariable} = {holder}()"

def expression (c : Construction) : String :=
  let component := c.names.qualify "VComp"
  let node := c.names.qualify "VNode"
  let type := Path.dotted c.componentType
  let properties := c.properties.source c.names
  s!"{node}.VComp({component}.new({type}, {properties}, {c.names.scopeVariable}))"

def source (c : Construction) : String := s!"{c.scope}\n{c.expression}"

def describe (c : Construction) : String :=
  s!"ComponentNode({Text.quoteString c.componentType}, {c.properties.kind})"

def metadataD (c : Construction) (key default : String) : String :=
  (c.metadata.lookup key).getD default

/-- The key that the name of the properties is kept under. -/
def propertiesTypeKey : String := "properties_type"

/-- `none` if the label is no field. -/
def setter? (schema : Schema) (p : Property) : Option Setter :=
  (schema.field? p.key).map fun field =>
    ⟨p.key, p.value.render, Conversion.resolve p.value field.type⟩

def properties? (componentType : String) (schema : Schema) :
    Option PropertySpec → Option PropertiesValue
  | none => some (.default componentType)
  | some (.delegate d) => some (.delegate d.name.lexeme)
  | some (.list l) => (l.properties.mapM (setter? schema)).map (.builder componentType)

/-- `none` if a declared property is no field. -/
def of? (names : RuntimeNames) (schema : Schema) (c : ComponentTag) : Option Construction :=
  (properties? c.typePath.text schema c.properties).map fun properties =>
    ⟨c.typePath.text, properties, names, [(propertiesTypeKey, schema.name)]⟩

end Construction

end ComponentMarkup
