import ComponentMarkup.Construction.Emission
import ComponentMarkup.Tag.Classification

/-!
# Compilation

One component tag from source to construction.

## Main definitions

* `Compilation` — what comes out for a component tag.
* `CompileError` — why nothing comes out.
* `compile` — `none` for a source that is no component tag.
* `compileLogged` — the same with the journal of all stages.
-/

namespace ComponentMarkup

structure Compilation where
  tag : ComponentTag
  report : Report
  construction : Construction
  warnings : List Warning
deriving DecidableEq

inductive CompileError where
  | lexical (e : LexFailure)
  | parsing (e : Failure)
  | semantic (e : SemanticError)
  /-- A construction is missing although the tag is valid. -/
  | noConstruction
deriving DecidableEq

/-- A stage goes on with the journal even if it fails. -/
abbrev Stage := EStateM CompileError Journal

namespace Stage

def note (notes : Journal) : Stage Unit := modify (· ++ notes)

def lexing (file source : String) : Stage Lexing := do
  match Lexing.ofSource file source.toList with
  | .error abort => throw (.lexical (.abort abort))
  | .ok x =>
    note [x.note]
    match x.checked with
    | .error e => throw (.lexical (.fault e))
    | .ok x => return x

def classifying (s : TokenStream) : Stage Bool := do
  match s.classifyTag? with
  | none => return false
  | some c =>
    note [c.note]
    return c.isComponent

/-- One tag and nothing behind it. -/
def tag (config : Config) : Parser (ComponentTag × List Warning) := do
  let result ← Parser.component config
  match ← Parser.peek with
  | some t => Parser.reject (.trailingToken t)
  | none => return result

def parsing (config : Config) (s : TokenStream) : Stage (ComponentTag × List Warning) := do
  match (tag config).run s with
  | .ok result s =>
    note s.journal
    return result
  | .error e s =>
    note s.journal
    throw (.parsing e)

def emitting (registry : Registry) (config : Config) (c : ComponentTag) :
    Stage (Report × Construction) := do
  let emission := Emission.of registry config c
  note emission.journal
  match emission.report.checked with
  | .error e => throw (.semantic e)
  | .ok report =>
    match emission.construction with
    | none => throw .noConstruction
    | some construction => return (report, construction)

def all (registry : Registry) (config : Config) (file source : String) :
    Stage (Option Compilation) := do
  let stream := TokenStream.ofLexing (← lexing file source)
  if ← classifying stream then
    let (tag, warnings) ← parsing config stream
    let (report, construction) ← emitting registry config tag
    return some ⟨tag, report, construction, warnings⟩
  else
    note [⟨.compilation, s!"{file}: not a component tag"⟩]
    return none

end Stage

/-- The file name that is given, unless it is empty, or else the configured one. -/
def fileName (config : Config) (given : Option String) : String :=
  (given.filter (!·.isEmpty)).getD config.filename

def compileLogged (registry : Registry) (config : Config) (file : Option String) (source : String) :
    Except CompileError (Option Compilation) × Journal :=
  match (Stage.all registry config (fileName config file) source).run [] with
  | .ok result journal => (.ok result, journal)
  | .error e journal => (.error e, journal)

def compile (registry : Registry) (config : Config) (file : Option String) (source : String) :
    Except CompileError (Option Compilation) :=
  (compileLogged registry config file source).1

end ComponentMarkup
