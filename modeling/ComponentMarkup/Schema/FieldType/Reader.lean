import ComponentMarkup.Schema.FieldType
import ComponentMarkup.Text.Blank
import ComponentMarkup.Text.Quoted

/-!
# Reading field types

A field type is written as its name, followed by its parameters in angle brackets if it has any.
Blanks may stand between the symbols.

## Main definitions

* `TypeSymbol` — a name or one of the three marks.
* `TypeSymbol.scan?` — the symbols of a text.
* `FieldType.parse` — the type that a text stands for.
-/

namespace ComponentMarkup

inductive TypeSymbol where
  | name (spelling : List Char)
  | less
  | greater
  | comma
deriving DecidableEq

namespace TypeSymbol

def spelling : TypeSymbol → List Char
  | name s => s
  | less => ['<']
  | greater => ['>']
  | comma => [',']

def isStart (c : Char) : Bool := c.isAlpha || c = '_'

def isPart (c : Char) : Bool := c.isAlphanum || c = '_'

/-- What goes on a name, `::` with another name behind it included. -/
def splitName : List Char → List Char × List Char
  | [] => ([], [])
  | ':' :: ':' :: c :: cs =>
    if isStart c then
      let split := splitName cs
      (':' :: ':' :: c :: split.1, split.2)
    else ([], ':' :: ':' :: c :: cs)
  | c :: cs =>
    if isPart c then
      let split := splitName cs
      (c :: split.1, split.2)
    else ([], c :: cs)

theorem append_splitName (s : List Char) : (splitName s).1 ++ (splitName s).2 = s := by
  fun_induction splitName s with
  | case1 => rfl
  | case2 c cs start split ih => exact congrArg (':' :: ':' :: c :: ·) ih
  | case3 => rfl
  | case4 c cs split other part ih => exact congrArg (c :: ·) ih
  | case5 => rfl

theorem length_splitName (s : List Char) : (splitName s).2.length ≤ s.length := by
  have := congrArg List.length (append_splitName s)
  simp only [List.length_append] at this
  omega

/-- `none` if anything but a symbol or a blank occurs. -/
def scan? : List Char → Option (List TypeSymbol)
  | [] => some []
  | c :: cs =>
    if Text.isBlank c then scan? cs
    else if c = '<' then (scan? cs).map (less :: ·)
    else if c = '>' then (scan? cs).map (greater :: ·)
    else if c = ',' then (scan? cs).map (comma :: ·)
    else if isStart c then
      let split := splitName cs
      (scan? split.2).map (name (c :: split.1) :: ·)
    else none
termination_by s => s.length
decreasing_by
  all_goals
    have := length_splitName cs
    simp only [List.length_cons]
    omega

end TypeSymbol

/-- What is wrong with the text of a field type. -/
inductive FieldTypeFault where
  | invalid
  /-- Symbols are left over. -/
  | unexpected (rest : List TypeSymbol)
  | unbalanced
deriving DecidableEq

structure FieldTypeError where
  fault : FieldTypeFault
  text : String
deriving DecidableEq

namespace FieldTypeError

def message (e : FieldTypeError) : String :=
  let text := Text.quoteString e.text
  match e.fault with
  | .invalid => s!"invalid field type: {text}"
  | .unexpected rest =>
    let rest := Text.quoteString (.ofList (rest.flatMap TypeSymbol.spelling))
    s!"unexpected {rest} in field type {text}"
  | .unbalanced => s!"unbalanced '<' in field type {text}"

end FieldTypeError

namespace FieldType

/-- A type whose parameters are being read, with those that have been read. -/
structure Pending where
  name : String
  parameters : List FieldType

mutual

/-- Reads a type; `outer` are the types that it is a parameter of, innermost first. -/
def readType (outer : List Pending) :
    List TypeSymbol → Except FieldTypeFault (FieldType × List TypeSymbol)
  | .name spelling :: rest => readParameters outer (.ofList spelling) rest
  | _ => .error .invalid

/-- Goes on behind the name of a type. -/
def readParameters (outer : List Pending) (name : String) :
    List TypeSymbol → Except FieldTypeFault (FieldType × List TypeSymbol)
  | .less :: rest => readType (⟨name, []⟩ :: outer) rest
  | rest => finish outer (mk name []) rest

/-- Goes on behind a whole type. -/
def finish : (outer : List Pending) → FieldType → (rest : List TypeSymbol) →
    Except FieldTypeFault (FieldType × List TypeSymbol)
  | [], t, rest => .ok (t, rest)
  | p :: outer, t, .comma :: rest => readType (⟨p.name, p.parameters ++ [t]⟩ :: outer) rest
  | p :: outer, t, .greater :: rest => finish outer (mk p.name (p.parameters ++ [t])) rest
  | _ :: _, _, _ => .error .unbalanced

end

def parse (text : String) : Except FieldTypeError FieldType :=
  match TypeSymbol.scan? text.toList with
  | none => .error ⟨.invalid, text⟩
  | some symbols =>
    match readType [] symbols with
    | .error fault => .error ⟨fault, text⟩
    | .ok (t, []) => .ok t
    | .ok (_, rest) => .error ⟨.unexpected rest, text⟩

end FieldType

end ComponentMarkup
