import ComponentMarkup.Construction.Basic
import ComponentMarkup.Schema.Validation

/-!
# Emission

A construction is built for a tag only if nothing is wrong with the tag.

## Main definitions

* `Emission` — the report of a tag, and its construction.
* `Emission.of` — of a tag that is validated against a registry.
-/

namespace ComponentMarkup

structure Emission where
  report : Report
  construction : Option Construction
deriving DecidableEq

namespace Emission

/-- The schema of a tag without violations. -/
def schema? (r : Report) : Option Schema :=
  if r.isOk then r.type?.bind TypeInfo.properties? else none

def of (registry : Registry) (config : Config) (c : ComponentTag) : Emission :=
  let report := registry.validate c
  ⟨report, (schema? report).bind fun schema =>
    Construction.of? (.ofConfig config) schema c⟩

def isOk (e : Emission) : Bool := e.construction.isSome

def source? (e : Emission) : Option String := e.construction.map Construction.source

def journal (e : Emission) : Journal :=
  [e.report.note,
   match e.construction with
   | some c => ⟨.construction, s!"emitted {c.describe}"⟩
   | none => ⟨.construction,
      s!"skipping construction of {e.report.tag.typePath.text}: validation failed"⟩]

end Emission

end ComponentMarkup
