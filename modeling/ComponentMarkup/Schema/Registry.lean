import ComponentMarkup.Journal
import ComponentMarkup.Schema.FieldType.Reader
import ComponentMarkup.Schema.Path

/-!
# The registry

What is known of the types that a tag can refer to: for a component, the properties that it takes.
A type is known by its normalized path. An alias makes a first segment stand for a whole path.

## Main definitions

* `Schema` — the fields of a component's properties, in the order of their declaration.
* `Registry` — the types, in the order of their registration, and the aliases.
* `Registry.add`, `Registry.addAlias` — the two ways to make it larger.
* `Registry.lookup?` — the type that a path leads to.
* `RegistryData.build` — a registry from plain data.
-/

namespace ComponentMarkup

structure Field where
  name : String
  type : FieldType
deriving DecidableEq

structure Schema where
  name : String
  fields : List Field
deriving DecidableEq

inductive RegistryError where
  | fieldType (e : FieldTypeError)
  | fieldTwice (field schema : String)
  | typeTwice (path : String)
  /-- A component without its properties. -/
  | componentKind
  | aliasOfSegments (name : String)
deriving DecidableEq

namespace RegistryError

def message : RegistryError → String
  | fieldType e => e.message
  | fieldTwice field schema => s!"field {Text.quoteString field} declared twice on {schema}"
  | typeTwice path => s!"type {Text.quoteString path} is already registered"
  | componentKind => "use register_component for component types"
  | aliasOfSegments name =>
    s!"alias names must be a single segment, got {Text.quoteString name}"

end RegistryError

namespace Schema

/-- The first field whose name has occurred before. -/
def repeated? (seen : List String) : List Field → Option Field
  | [] => none
  | f :: fs => if f.name ∈ seen then some f else repeated? (f.name :: seen) fs

def ofFields (name : String) (fields : List Field) : Except RegistryError Schema :=
  match repeated? [] fields with
  | some f => .error (.fieldTwice f.name name)
  | none => .ok ⟨name, fields⟩

def field? (s : Schema) (name : String) : Option Field := s.fields.find? (·.name = name)

def fieldNames (s : Schema) : List String := s.fields.map Field.name

def hasField (s : Schema) (name : String) : Bool := (s.field? name).isSome

/-- The fields of which the types are given as texts. -/
def readFields (fields : List (String × String)) : Except RegistryError (List Field) :=
  fields.mapM fun (name, type) =>
    match FieldType.parse type with
    | .ok type => .ok ⟨name, type⟩
    | .error e => .error (.fieldType e)

def describe (s : Schema) : String :=
  let names := ", ".intercalate (s.fieldNames.map Text.quoteString)
  s!"PropertiesSchema({Text.quoteString s.name}, [{names}])"

end Schema

inductive TypeKind where
  | component (properties : Schema)
  | properties
  | plain
deriving DecidableEq

namespace TypeKind

def name : TypeKind → String
  | component _ => "component"
  | properties => "properties"
  | plain => "plain"

/-- The kind of that name for a type that is no component. -/
def ofName? (s : String) : Option (Except RegistryError TypeKind) :=
  if s = "component" then some (.error .componentKind)
  else if s = "properties" then some (.ok properties)
  else if s = "plain" then some (.ok plain)
  else none

end TypeKind

structure TypeInfo where
  path : String
  kind : TypeKind
deriving DecidableEq

namespace TypeInfo

def properties? (t : TypeInfo) : Option Schema :=
  match t.kind with
  | .component properties => some properties
  | _ => none

def isComponent (t : TypeInfo) : Bool := t.properties?.isSome

def note (t : TypeInfo) : Note where
  channel := .schema
  message := s!"registered {t.kind.name} type {t.path}"

end TypeInfo

structure Registry where
  types : List TypeInfo := []
  aliases : List (String × String) := []
deriving DecidableEq

namespace Registry

def empty : Registry := {}

def size (r : Registry) : Nat := r.types.length

/-- The type registered under just this path. -/
def type? (r : Registry) (path : String) : Option TypeInfo := r.types.find? (·.path = path)

def add (r : Registry) (path : String) (kind : TypeKind) :
    Except RegistryError (Registry × TypeInfo) :=
  let info : TypeInfo := ⟨Path.normalize path, kind⟩
  match r.type? info.path with
  | some _ => .error (.typeTwice info.path)
  | none => .ok ({ r with types := r.types ++ [info] }, info)

/-- The latest alias of a name counts. -/
def addAlias (r : Registry) (name path : String) : Except RegistryError Registry :=
  let name := Path.normalize name
  match (Path.partition name.toList).2 with
  | some _ => .error (.aliasOfSegments name)
  | none => .ok { r with aliases := (name, Path.normalize path) :: r.aliases }

/-- The path with an alias in its first segment replaced, unless it is registered as it stands. -/
def resolve (r : Registry) (path : String) : String :=
  let path := Path.normalize path
  let (head, tail) := Path.partition path.toList
  match r.aliases.lookup (.ofList head), r.type? path with
  | some target, none =>
    match tail with
    | some tail => target ++ "::" ++ .ofList tail
    | none => target
  | _, _ => path

def lookup? (r : Registry) (path : String) : Option TypeInfo := r.type? (r.resolve path)

def contains (r : Registry) (path : String) : Bool := (r.lookup? path).isSome

def isComponent (r : Registry) (path : String) : Bool :=
  (r.lookup? path).any TypeInfo.isComponent

/-- Paths and aliases in ascending order, each once. -/
def knownPaths (r : Registry) : List String :=
  (r.types.map TypeInfo.path ++ r.aliases.map (·.1)).eraseDups.mergeSort fun a b => a ≤ b

def notAComponent (path : String) : String :=
  s!"{Text.quoteString path} is not a registered component"

def propertiesOf (r : Registry) (path : String) : Except String Schema :=
  match (r.lookup? path).bind TypeInfo.properties? with
  | some properties => .ok properties
  | none => .error (notAComponent path)

/-- One note for each type that was registered. -/
def journal (r : Registry) : Journal := r.types.map TypeInfo.note

end Registry

/-- A component in plain data: the name of its properties and the types of its fields. -/
structure ComponentData where
  properties : Option String
  fields : List (String × String)

structure RegistryData where
  components : List (String × ComponentData) := []
  types : List String := []
  aliases : List (String × String) := []

namespace RegistryData

/-- Each key once, in its first place and with its last value. -/
def lastValues {α : Type} (entries : List (String × α)) : List (String × α) :=
  entries.foldl put []
where
  put (kept : List (String × α)) (entry : String × α) : List (String × α) :=
    if kept.any (·.1 = entry.1) then
      kept.map fun old => if old.1 = entry.1 then (old.1, entry.2) else old
    else kept ++ [entry]

/-- Adds to a registry, which keeps what was added before a failure. -/
abbrev Building := EStateM RegistryError Registry

def raising {α : Type} (result : Except RegistryError α) : Building α :=
  match result with
  | .ok a => return a
  | .error e => throw e

def addType (path : String) (kind : TypeKind) : Building Unit := do
  let (r, _) ← raising ((← get).add path kind)
  set r

/-- Properties without a name are named after the component. -/
def defaultName (path : String) : String :=
  .ofList (Path.lastSegment (Path.normalize path).toList) ++ "Props"

def addComponent (path : String) (data : ComponentData) : Building Unit := do
  let fields ← raising (Schema.readFields (lastValues data.fields))
  let schema ← raising (Schema.ofFields (data.properties.getD (defaultName path)) fields)
  addType path (.component schema)

def addAlias (name path : String) : Building Unit := do
  set (← raising ((← get).addAlias name path))

/-- Components first, then the other types, then the aliases. -/
def building (data : RegistryData) : Building Unit := do
  (lastValues data.components).forM fun (path, component) => addComponent path component
  data.types.forM fun path => addType path .plain
  (lastValues data.aliases).forM fun (name, path) => addAlias name path

/-- The registry, or the error with the notes of what was registered before it. -/
def build (data : RegistryData) : Except (RegistryError × Journal) Registry :=
  match data.building.run .empty with
  | .ok _ r => .ok r
  | .error e r => .error (e, r.journal)

end RegistryData

end ComponentMarkup
