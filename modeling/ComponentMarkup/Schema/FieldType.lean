/-!
# Field types

The type of a property's field: a name, with types as parameters or without.

## Main definitions

* `FieldType` — name and parameters.
* `FieldType.text` — the spelling.
* `FieldType.inner?` — the type that an optional type wraps.
-/

namespace ComponentMarkup

inductive FieldType where
  | mk (name : String) (parameters : List FieldType)
deriving Repr, Inhabited

namespace FieldType

mutual

def decEq : (a b : FieldType) → Decidable (a = b)
  | mk m ps, mk n qs =>
    if h : m = n then
      match decEqAll ps qs with
      | isTrue hs => isTrue (by rw [h, hs])
      | isFalse hs => isFalse fun eq => hs (FieldType.mk.inj eq).2
    else isFalse fun eq => h (FieldType.mk.inj eq).1

def decEqAll : (as bs : List FieldType) → Decidable (as = bs)
  | [], [] => isTrue rfl
  | [], _ :: _ => isFalse nofun
  | _ :: _, [] => isFalse nofun
  | a :: as, b :: bs =>
    match decEq a b with
    | isTrue h =>
      match decEqAll as bs with
      | isTrue hs => isTrue (by rw [h, hs])
      | isFalse hs => isFalse fun eq => hs (List.cons.inj eq).2
    | isFalse h => isFalse fun eq => h (List.cons.inj eq).1

end

instance : DecidableEq FieldType := decEq

def name : FieldType → String
  | mk name _ => name

def parameters : FieldType → List FieldType
  | mk _ parameters => parameters

mutual

def text : FieldType → String
  | mk name [] => name
  | mk name (p :: ps) => name ++ "<" ++ p.text ++ moreText ps ++ ">"

/-- The parameters behind the first one. -/
def moreText : List FieldType → String
  | [] => ""
  | p :: ps => ", " ++ p.text ++ moreText ps

end

/-- The one parameter of a type with one. -/
def inner? : FieldType → Option FieldType
  | mk _ [inner] => some inner
  | _ => none

def isOptionName (name : String) : Bool := name = "Option" || name = "Optional"

def isOptional (t : FieldType) : Bool := isOptionName t.name && t.inner?.isSome

def isCallback (t : FieldType) : Bool := t.name = "Callback" || t.name = "Callable"

end FieldType

end ComponentMarkup
