import ComponentMarkup.Text.Blank
import ComponentMarkup.Text.Quoted
import ComponentMarkup.Text.Word

/-!
# Configuration

## Main definitions

* `DuplicatePolicy` — what becomes of a label that is declared twice.
* `Config` — the settings of all stages. The three that stand for identifiers are words.
* `Settings` — texts for some of the settings.
* `Config.with?` — a configuration with some settings replaced.
* `Settings.ofEnvironment` — the settings that environment variables give.
-/

namespace ComponentMarkup

inductive DuplicatePolicy where
  | error
  | lastWins
deriving DecidableEq, Repr

namespace DuplicatePolicy

def name : DuplicatePolicy → String
  | error => "error"
  | lastWins => "last_wins"

def all : List DuplicatePolicy := [error, lastWins]

def ofName? (s : String) : Option DuplicatePolicy := all.find? (·.name = s)

end DuplicatePolicy

structure Config where
  reservedLabel : String
  delegateKeyword : String
  duplicateLabels : DuplicatePolicy
  scopeVariable : String
  runtimeModule : String
  filename : String
  reservedLabel_isWord : Text.isWord reservedLabel.toList = true
  delegateKeyword_isWord : Text.isWord delegateKeyword.toList = true
  scopeVariable_isWord : Text.isWord scopeVariable.toList = true

/-- Settings that have not been checked. -/
structure Settings where
  reservedLabel : Option String := none
  delegateKeyword : Option String := none
  duplicateLabels : Option String := none
  scopeVariable : Option String := none
  runtimeModule : Option String := none
  filename : Option String := none
deriving DecidableEq, Repr

inductive ConfigError where
  | unknownPolicy (given : String)
  | notAWord (setting given : String)
deriving DecidableEq, Repr

namespace ConfigError

def message : ConfigError → String
  | unknownPolicy given =>
    let policies := ", ".intercalate (DuplicatePolicy.all.map DuplicatePolicy.name)
    s!"duplicate_labels must be one of {policies}, got {Text.quoteString given}"
  | notAWord setting given =>
    s!"{setting} must be an identifier, got {Text.quoteString given}"

end ConfigError

namespace Config

def standard : Config where
  reservedLabel := "type"
  delegateKeyword := "with"
  duplicateLabels := .error
  scopeVariable := "__vcomp_scope"
  runtimeModule := "vdom"
  filename := "<markup>"
  reservedLabel_isWord := by decide +kernel
  delegateKeyword_isWord := by decide +kernel
  scopeVariable_isWord := by decide +kernel

instance : Inhabited Config := ⟨standard⟩

def policy? (s : Settings) (c : Config) : Except ConfigError DuplicatePolicy :=
  match s.duplicateLabels with
  | none => .ok c.duplicateLabels
  | some given =>
    match DuplicatePolicy.ofName? given with
    | some policy => .ok policy
    | none => .error (.unknownPolicy given)

/-- The policy is checked first, then the words in the order of the settings. -/
def with? (c : Config) (s : Settings) : Except ConfigError Config := do
  let policy ← policy? s c
  let reserved := s.reservedLabel.getD c.reservedLabel
  let keyword := s.delegateKeyword.getD c.delegateKeyword
  let scope := s.scopeVariable.getD c.scopeVariable
  if h₁ : Text.isWord reserved.toList then
    if h₂ : Text.isWord keyword.toList then
      if h₃ : Text.isWord scope.toList then
        return {
          reservedLabel := reserved
          delegateKeyword := keyword
          duplicateLabels := policy
          scopeVariable := scope
          runtimeModule := s.runtimeModule.getD c.runtimeModule
          filename := s.filename.getD c.filename
          reservedLabel_isWord := h₁
          delegateKeyword_isWord := h₂
          scopeVariable_isWord := h₃ }
      else .error (.notAWord "scope_variable" scope)
    else .error (.notAWord "delegate_keyword" keyword)
  else .error (.notAWord "reserved_label" reserved)

def ofSettings (s : Settings) : Except ConfigError Config := standard.with? s

end Config

namespace Settings

/-- The value last given to a variable, without the blanks around it. -/
def valueOf? (environment : List (String × String)) (name : String) : Option String :=
  (environment.reverse.lookup name).map fun value => .ofList (Text.trimBlanks value.toList)

def ofEnvironment (environment : List (String × String)) : Settings where
  reservedLabel := valueOf? environment "MARKUPC_RESERVED_LABEL"
  delegateKeyword := valueOf? environment "MARKUPC_DELEGATE_KEYWORD"
  duplicateLabels := valueOf? environment "MARKUPC_DUPLICATE_LABELS"
  scopeVariable := valueOf? environment "MARKUPC_SCOPE_VARIABLE"
  runtimeModule := valueOf? environment "MARKUPC_RUNTIME_MODULE"
  filename := valueOf? environment "MARKUPC_FILENAME"

end Settings

end ComponentMarkup
