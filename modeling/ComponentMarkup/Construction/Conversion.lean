import ComponentMarkup.Schema.FieldType
import ComponentMarkup.Tag.Expression

/-!
# Conversions

How the value of a property becomes the value of a field.

## Main definitions

* `Conversion` — the five ways, each with the type of its target.
* `Conversion.resolve` — the way for an expression and a field type.
-/

namespace ComponentMarkup

inductive Conversion where
  | identity (target : FieldType)
  | ownedString (target : FieldType)
  | optional (target : FieldType) (inner : Conversion)
  | callback (target : FieldType)
  | generic (target : FieldType)
deriving DecidableEq

namespace Conversion

def kind : Conversion → String
  | identity _ => "identity"
  | ownedString _ => "owned_string"
  | optional .. => "optional"
  | callback _ => "callback"
  | generic _ => "generic"

def target : Conversion → FieldType
  | identity t | ownedString t | optional t _ | callback t | generic t => t

def inner? : Conversion → Option Conversion
  | optional _ inner => some inner
  | _ => none

def isIdentity : Conversion → Bool
  | identity _ => true
  | _ => false

def text : Conversion → String
  | optional _ inner => s!"optional({inner.text})"
  | c => s!"{c.kind}->{c.target.text}"

/-- The names of the types that a literal belongs to as it stands. -/
def primitives : Value → List String
  | .string _ => ["str"]
  | .integer _ =>
    ["int", "i8", "i16", "i32", "i64", "i128", "isize", "u8", "u16", "u32", "u64", "u128", "usize"]
  | .float _ => ["float", "f32", "f64"]
  | .boolean _ => ["bool"]

/-- The names of the types that own a copy of a string literal. -/
def ownedStrings : Value → List String
  | .string _ => ["String", "AttrValue", "Cow"]
  | _ => []

def ofLiteral (value : Value) (t : FieldType) : Conversion :=
  if t.name ∈ ownedStrings value then .ownedString t
  else if t.name ∈ primitives value then .identity t
  else .generic t

/-- For a type that wraps no other. -/
def plain (e : Expression) (t : FieldType) : Conversion :=
  match e with
  | .literal value _ => ofLiteral value t
  | _ => if t.isCallback then .callback t else .generic t

/-- An optional type is seen through, to the conversion of the type that it wraps. -/
def resolve (e : Expression) : FieldType → Conversion
  | .mk name [inner] =>
    if FieldType.isOptionName name then .optional (.mk name [inner]) (resolve e inner)
    else plain e (.mk name [inner])
  | t => plain e t

end Conversion

end ComponentMarkup
