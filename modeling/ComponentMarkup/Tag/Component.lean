import ComponentMarkup.Tag.Property
import ComponentMarkup.Tag.Suffix
import ComponentMarkup.Tag.TypePath

/-!
# Component tags

`< Type properties />`. The interior of a tag is read as a stream of its own, so that nothing in it
can reach past the closing bracket.

## Main definitions

* `ComponentTag` — the type and its properties.
* `Parser.interior` — reads what stands between `<` and `/>`.
* `Parser.component` — reads a tag, and tells the warnings of it.
* `TagReader` — reads tag by tag and gathers the warnings.
-/

namespace ComponentMarkup

open Source (Location Span)

structure ComponentTag where
  typePath : TypePath
  properties : Option PropertySpec
  span : Span
deriving DecidableEq

namespace ComponentTag

def describeProperties : Option PropertySpec → String
  | none => "None"
  | some (.list l) => s!"PropertyList(span={l.span.text})"
  | some (.delegate d) => s!"PropertyDelegate({Text.quoteString d.name.lexeme})"

def describe (c : ComponentTag) : String :=
  let properties := describeProperties c.properties
  s!"ComponentTag({Text.quoteString c.typePath.text}, props={properties})"

end ComponentTag

/-- An error at the end of the interior is reported at the slash that ends it. -/
def Failure.atSlash (slash : Token) : Failure → Failure
  | .rejected e =>
    if e.kind = .unexpectedEnd then .rejected ((e.reanchored slash).causedAt e.location)
    else .rejected e
  | failure => failure

namespace Parser

def propertySpec (config : Config) : Parser (Option PropertySpec) := do
  match PropertyForm.ahead? config (← ahead) with
  | none => return none
  | some .list => return some (.list (← propertyList config))
  | some .delegate => return some (.delegate (← delegate config))

/-- A type path with a colon behind it or without, then properties, then nothing more. -/
def interior (config : Config) (span : Span) : Parser ComponentTag := do
  let typePath ← typePath
  let _ ← accept (.mark .colon)
  let properties ← propertySpec config
  match ← peek with
  | some t => reject (.trailingToken t)
  | none => return ⟨typePath, properties, span⟩

/-- Reads `ts` with `p` apart from the stream, which gets the notes of `p`. -/
def within {α : Type} (ts : List Token) (stop : Location) (p : Parser α) :
    Parser (Except Failure α × List Warning) := do
  match p.run ⟨ts, stop, [], []⟩ with
  | .ok a inner =>
    modify fun s => { s with journal := s.journal ++ inner.journal }
    return (.ok a, inner.warnings)
  | .error e inner =>
    modify fun s => { s with journal := s.journal ++ inner.journal }
    return (.error e, inner.warnings)

/-- A self-closing tag and its warnings. The stream is left behind the tag even if the interior is
at fault, and gets the warnings only if it is not. -/
def component (config : Config) : Parser (ComponentTag × List Warning) := do
  let opener ← mark .lessThan
  let suffix ← suffix
  match suffix.slash with
  | none => reject (.malformedTag opener suffix.closer)
  | some slash =>
    let span := opener.spanTo suffix.closer
    match ← within suffix.interior slash.start (interior config span) with
    | (.error e, _) => throw (Failure.atSlash slash e)
    | (.ok c, warnings) =>
      warn warnings
      record .component s!"parsed component {c.describe}"
      return (c, warnings)

end Parser

/-- A reader of tags with the warnings of those that it has read. -/
structure TagReader where
  config : Config
  warnings : List Warning := []

namespace TagReader

def read (r : TagReader) (s : TokenStream) :
    Except Failure ComponentTag × TagReader × TokenStream :=
  match (Parser.component r.config).run s with
  | .ok (c, warnings) s => (.ok c, { r with warnings := r.warnings ++ warnings }, s)
  | .error e s => (.error e, r, s)

end TagReader

end ComponentMarkup
