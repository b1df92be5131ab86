import ComponentMarkup.Tag.Component

/-!
# Nodes of a tag

A tag with everything in it, seen as a tree.

## Main definitions

* `Node` — a node of the tree.
* `Node.children` — the nodes right below it.
* `Node.walk` — a node and all nodes below it, each with its parent, depth first.
-/

namespace ComponentMarkup

open Source (Span)

inductive NodeKind where
  | component
  | typePath
  | label
  | property
  | propertyList
  | delegate
  | literal
  | path
  | call
  | block
deriving DecidableEq, Repr

namespace NodeKind

def name : NodeKind → String
  | component => "ComponentTag"
  | typePath => "TypePath"
  | label => "PropertyLabel"
  | property => "Property"
  | propertyList => "PropertyList"
  | delegate => "PropertyDelegate"
  | literal => "Literal"
  | path => "PathExpression"
  | call => "CallExpression"
  | block => "BlockExpression"

end NodeKind

inductive Node where
  | component (c : ComponentTag)
  | typePath (p : TypePath)
  | label (l : Label)
  | property (p : Property)
  | propertyList (l : PropertyList)
  | delegate (d : Delegate)
  | expression (e : Expression)
deriving DecidableEq

def Expression.kind : Expression → NodeKind
  | literal .. => .literal
  | path _ => .path
  | call .. => .call
  | block .. => .block

def Expression.describe : Expression → String
  | literal value _ => s!"Literal({value.text})"
  | path p => s!"PathExpression({Text.quoteString p.text})"
  | call _ _ span => s!"CallExpression(span={span.text})"
  | block _ span => s!"BlockExpression(span={span.text})"

def PropertySpec.node : PropertySpec → Node
  | list l => .propertyList l
  | delegate d => .delegate d

namespace Node

def kind : Node → NodeKind
  | component _ => .component
  | typePath _ => .typePath
  | label _ => .label
  | property _ => .property
  | propertyList _ => .propertyList
  | delegate _ => .delegate
  | expression e => e.kind

def span : Node → Span
  | component c => c.span
  | typePath p => p.span
  | label l => l.span
  | property p => p.span
  | propertyList l => l.span
  | delegate d => d.span
  | expression e => e.span

def children : Node → List Node
  | component c => .typePath c.typePath :: (c.properties.map PropertySpec.node).toList
  | property p => [.label p.label, .expression p.value]
  | propertyList l => l.properties.map .property
  | expression (.call callee _ _) => [.expression (.path callee)]
  | _ => []

/-- A label is shown as it is spelled, any other node by its kind and span. -/
def text : Node → String
  | label l => l.text
  | n => s!"{n.kind.name}@{n.span.text}"

def describe : Node → String
  | component c => c.describe
  | typePath p => s!"TypePath({Text.quoteString p.text})"
  | property p => s!"Property({p.key}={p.value.describe})"
  | delegate d => s!"PropertyDelegate({Text.quoteString d.name.lexeme})"
  | expression e => e.describe
  | n => s!"{n.kind.name}(span={n.span.text})"

/-- How many levels of nodes there can be below a node. -/
def height : Node → Nat
  | component _ => 4
  | propertyList _ => 3
  | property _ => 2
  | expression (.call ..) => 1
  | _ => 0

theorem height_lt_of_mem_children {n c : Node} (h : c ∈ n.children) : c.height < n.height := by
  cases n with
  | component t =>
    cases hp : t.properties with
    | none => simp_all [children, height]
    | some p => cases p <;> simp_all [children, PropertySpec.node] <;> grind [height]
  | property p =>
    simp only [children, List.mem_cons, List.not_mem_nil, or_false] at h
    rcases h with rfl | rfl
    · simp [height]
    · cases hv : p.value <;> simp [height]
  | propertyList l =>
    simp only [children, List.mem_map] at h
    obtain ⟨p, -, rfl⟩ := h
    simp [height]
  | expression e => cases e <;> simp_all [children, height]
  | _ => simp [children] at h

def walkBelow (parent : Option Node) (n : Node) : List (Option Node × Node) :=
  (parent, n) :: n.children.attach.flatMap fun c => walkBelow (some n) c.1
termination_by n.height
decreasing_by exact height_lt_of_mem_children c.2

def walk (n : Node) : List (Option Node × Node) := walkBelow none n

end Node

end ComponentMarkup
