import ComponentMarkup.Config
import ComponentMarkup.Tag.Expression
import ComponentMarkup.Token.Lookahead

/-!
# Properties

A tag declares its properties one by one, or delegates them to a value that was built before.

## Main definitions

* `Label` — a dashed name; only a plain name is a property of a component.
* `Property`, `PropertyList`, `Delegate` — the declarations.
* `PropertyList.fault?` — the first declaration that must not stand where it does.
* `PropertyList.winners`, `PropertyList.ordered` — the declarations that count, by label.
* `Parser.propertyList`, `Parser.delegate` — read the two forms.
-/

namespace ComponentMarkup

open Source (Location Span)

structure Label where
  name : Token
  extension : List Token
  span : Span
deriving DecidableEq

namespace Label

def text (l : Label) : String := "-".intercalate ((l.name :: l.extension).map Token.lexeme)

def isPlain (l : Label) : Bool := l.extension.isEmpty

end Label

structure Property where
  label : Label
  value : Expression
  span : Span
deriving DecidableEq

namespace Property

def key (p : Property) : String := p.label.text

end Property

structure PropertyList where
  properties : List Property
  span : Span
deriving DecidableEq

namespace PropertyList

def labels (l : PropertyList) : List String := l.properties.map Property.key

/-- The first declaration at fault, where `seen` are the declarations before, latest first: one of
the reserved label, of a dashed label or, unless the last one wins, of a label seen before. -/
def faultAfter? (config : Config) (seen : List Property) : List Property → Option ParseError
  | [] => none
  | p :: ps =>
    let label := p.label
    if label.text = config.reservedLabel then
      some (.reservedLabel label.name label.span config.reservedLabel)
    else if !label.isPlain then some (.qualifiedLabel label.name label.span label.text)
    else
      match config.duplicateLabels, seen.find? (·.key = p.key) with
      | .error, some first =>
        some (.duplicateLabel label.name label.span label.text first.label.span.start)
      | _, _ => faultAfter? config (p :: seen) ps

def fault? (config : Config) (ps : List Property) : Option ParseError := faultAfter? config [] ps

/-- The last declaration of each label. -/
def winners : List Property → List Property
  | [] => []
  | p :: ps => if ps.any (·.key = p.key) then winners ps else p :: winners ps

/-- A warning for each declaration that a later one overrides. -/
def overridden : List Property → List Warning
  | [] => []
  | p :: ps =>
    match ps.reverse.find? (·.key = p.key) with
    | some winner =>
      .overriddenLabel p.label.name p.label.span p.key winner.label.span.start :: overridden ps
    | none => overridden ps

def ordered (ps : List Property) : List Property := ps.mergeSort fun p q => p.key ≤ q.key

/-- Around all properties; `start` stands for a list without any. -/
def spanOf (start : Location) : List Property → Span
  | [] => ⟨start, start⟩
  | p :: ps => p.span.joinAll (ps.map Property.span)

def note (labels : List String) : String :=
  let labels := ", ".intercalate (labels.map Text.quoteString)
  s!"parsed property list [{labels}]"

end PropertyList

structure Delegate where
  name : Token
  span : Span
deriving DecidableEq

/-- The two forms; a tag may also have neither. -/
inductive PropertySpec where
  | list (properties : PropertyList)
  | delegate (d : Delegate)
deriving DecidableEq

/-- Which form comes next. -/
inductive PropertyForm where
  | list
  | delegate
deriving DecidableEq, Repr

namespace PropertyForm

def name : PropertyForm → String
  | list => "list"
  | delegate => "with"

/-- The keyword introduces a delegate, any other identifier a list. -/
def ahead? (config : Config) (ts : List Token) : Option PropertyForm :=
  (Lookahead.identifier? ts).map fun (t, _) =>
    if t.lexeme = config.delegateKeyword then delegate else list

end PropertyForm

def PropertySpec.form : PropertySpec → PropertyForm
  | list _ => .list
  | delegate _ => .delegate

def PropertySpec.span : PropertySpec → Span
  | list l => l.span
  | delegate d => d.span

namespace Parser

def label : Parser Label := do
  match Lookahead.dashedName? (← ahead) with
  | some (name, extension, rest) =>
    seek rest
    return ⟨name, extension, name.spanTo (extension.getLast?.getD name)⟩
  | none =>
    match ← peek with
    | none => unexpectedEnd "property name"
    | some t => reject (.unexpectedToken "property name" t)

/-- `label = value`, with a comma behind it or without. -/
def property : Parser Property := do
  let label ← label
  let _ ← mark .assign
  let value ← expression
  let _ ← accept (.mark .comma)
  return ⟨label, value, ⟨label.span.start, value.span.stop⟩⟩

def nextProperty : Parser (Option Property) := do
  if Lookahead.startsProperty (← ahead) then some <$> property else return none

/-- Reads declarations as long as they look like some, then checks their labels in turn. -/
def propertyList (config : Config) : Parser PropertyList := do
  let start ← location
  let declared ← many nextProperty
  match PropertyList.fault? config declared with
  | some e => reject e
  | none =>
    warn (PropertyList.overridden declared)
    let properties := PropertyList.ordered (PropertyList.winners declared)
    record .properties (PropertyList.note (properties.map Property.key))
    return ⟨properties, PropertyList.spanOf start properties⟩

/-- The keyword and the name of the value, with a comma behind it or without. -/
def delegate (config : Config) : Parser Delegate := do
  let keyword ← identifier s!"`{config.delegateKeyword}`"
  if keyword.lexeme ≠ config.delegateKeyword then
    reject (.delegateKeywordMismatch keyword config.delegateKeyword)
  let name ← identifier "identifier"
  let _ ← accept (.mark .comma)
  record .properties s!"parsed property delegate {name.lexeme}"
  return ⟨name, keyword.spanTo name⟩

end Parser

end ComponentMarkup
