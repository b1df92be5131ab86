import ComponentMarkup.Source.Location
import ComponentMarkup.Text.LetterCase

/-!
# Diagnostics

What every stage reports about a place in the source.

## Main definitions

* `Diagnostic` — the report.
* `Diagnostic.text` — the lines that are shown for it.
-/

namespace ComponentMarkup.Source

structure Diagnostic where
  message : String
  location : Location
  severity : String := "error"
  code : Option String := none
  help : Option String := none
  suggestions : Option (List String) := none
  span : Option Span := none
deriving DecidableEq, Repr

namespace Diagnostic

/-- The text unless it is absent or empty. -/
def given (s : Option String) : Option String := s.filter (!·.isEmpty)

def heading (d : Diagnostic) : String :=
  let severity := String.ofList (Text.uppercase d.severity.toList)
  let code := match given d.code with
    | some code => s!"[{code}]"
    | none => ""
  s!"{severity}{code}: {d.message}\n"

/-- The span tells more than the location and is shown in its place. -/
def place (d : Diagnostic) : String :=
  match d.span with
  | some span => span.text
  | none => d.location.text

def text (d : Diagnostic) : String :=
  let help := match given d.help with
    | some help => s!"  help: {help}\n"
    | none => ""
  let suggestions := match d.suggestions.getD [] with
    | [] => ""
    | items => "  suggestions:\n" ++ String.join (items.map fun s => s!"    - {s}\n")
  s!"{d.heading}  --> {d.place}\n{help}{suggestions}"

end Diagnostic

end ComponentMarkup.Source
