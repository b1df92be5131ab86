import ComponentMarkup.Construction.Basic
import ComponentMarkup.Proofs.Construction.Conversions

/-!
# Conversions through optional types

Each wrapper of an optional type costs one optional conversion, and none of them shows in the code
that is emitted.

## Main definitions

* `FieldType.Unwraps` — the wrappers in front of a type, and the type that they wrap.
* `Conversion.Ends` — the conversions that are not optional, and what they are for.

## Main statements

* `Conversion.resolve_transparent` — a conversion is the one for the wrapped type with the wrappers
  around it, and a field is set to the same text with and without them.
-/

namespace ComponentMarkup

open Source (Span)

/-- The wrappers in front of a type, outermost first, and the first type that is none. A wrapper is
called `Option` or `Optional` and has one parameter. -/
inductive FieldType.Unwraps : FieldType → List FieldType → FieldType → Prop where
  | wrapper {name : String} {inner last : FieldType} {wrappers : List FieldType} :
      name = "Option" ∨ name = "Optional" → Unwraps inner wrappers last →
      Unwraps (.mk name [inner]) (.mk name [inner] :: wrappers) last
  | last {t : FieldType} :
      (∀ inner, t ≠ .mk "Option" [inner] ∧ t ≠ .mk "Optional" [inner]) → Unwraps t [] t

namespace Conversion

variable {e : Expression} {c : Conversion}

/-- The conversions that end a chain, each with the expressions and the types that it is for. -/
inductive Ends : Expression → Conversion → Prop where
  | identity {value : Value} {span : Span} {t : FieldType} :
      Ends (.literal value span) (.identity t)
  | ownedString {s : List Text.CodePoint} {span : Span} {t : FieldType} :
      Ends (.literal (.string s) span) (.ownedString t)
  | path {p : ValuePath} {t : FieldType} : t.isCallback = true → Ends (.path p) (.callback t)
  | call {callee : ValuePath} {arguments : List Token} {span : Span} {t : FieldType} :
      t.isCallback = true → Ends (.call callee arguments span) (.callback t)
  | block {tokens : List Token} {span : Span} {t : FieldType} :
      t.isCallback = true → Ends (.block tokens span) (.callback t)
  | generic {e : Expression} {t : FieldType} : Ends e (.generic t)

theorem Ends.inner?_eq_none (h : Ends e c) : c.inner? = none := by
  cases h <;> rfl

theorem Ends.kind_ne_optional (h : Ends e c) : c.kind ≠ "optional" := by
  cases h <;> simp [kind]

theorem ofLiteral_ends (value : Value) (span : Span) (t : FieldType) :
    Ends (.literal value span) (ofLiteral value t) := by
  unfold ofLiteral
  split
  case isTrue owned =>
    cases value with
    | string s => exact .ownedString
    | _ => simp [ownedStrings] at owned
  case isFalse =>
    split
    · exact .identity
    · exact .generic

theorem plain_ends (e : Expression) (t : FieldType) : Ends e (plain e t) := by
  fun_cases plain e t with
  | case1 value span => exact ofLiteral_ends value span t
  | case2 e isCallback noLiteral =>
    cases e with
    | literal value span => exact absurd rfl (noLiteral value span)
    | path p => exact .path isCallback
    | call callee arguments span => exact .call isCallback
    | block tokens span => exact .block isCallback
  | case3 => exact .generic

theorem plain_target (e : Expression) (t : FieldType) : (plain e t).target = t := by
  fun_cases plain e t with
  | case1 value span =>
    unfold ofLiteral
    split
    · rfl
    · split <;> rfl
  | _ => rfl

end Conversion

/-- Optional conversions around a conversion leave no trace in the text of a value. -/
theorem Setter.convert_optionals (n : RuntimeNames) (value : String) (c : Conversion)
    (wrappers : List FieldType) :
    convert n value (wrappers.foldr .optional c) = convert n value c := by
  induction wrappers with
  | nil => rfl
  | cons wrapper wrappers ih => simpa only [List.foldr_cons, convert] using ih

namespace Conversion

theorem resolve_unwraps (e : Expression) (t : FieldType) :
    ∃ wrappers last, t.Unwraps wrappers last ∧ resolve e last = plain e last ∧
      resolve e t = wrappers.foldr .optional (plain e last) := by
  fun_induction resolve e t with
  | case1 name inner isOption ih =>
    obtain ⟨wrappers, last, unwraps, plainLast, chain⟩ := ih
    refine ⟨.mk name [inner] :: wrappers, last, .wrapper ?_ unwraps, plainLast, ?_⟩
    · simpa [FieldType.isOptionName] using isOption
    · rw [List.foldr_cons, ← chain]
  | case2 name inner notOption =>
    refine ⟨[], .mk name [inner], .last ?_, ?_, rfl⟩
    · intro wrapped
      simp only [FieldType.isOptionName] at notOption
      grind
    · rw [resolve, if_neg notOption]
  | case3 t noInner =>
    refine ⟨[], t, .last fun inner => ⟨noInner _ inner, noInner _ inner⟩, ?_, rfl⟩
    rw [resolve.eq_2 _ _ noInner]

/-- A conversion has one optional conversion for each wrapper of the type, and then the conversion
for the wrapped type, which alone decides the text that a field is set to. -/
theorem resolve_transparent (e : Expression) (t : FieldType) :
    ∃ wrappers last, t.Unwraps wrappers last ∧
      resolve e t = wrappers.foldr .optional (resolve e last) ∧
      ((resolve e last).kind ≠ "optional" ∧ (resolve e last).inner? = none ∧
        (resolve e last).target = last ∧ Ends e (resolve e last)) ∧
      ∀ label value names,
        (Setter.mk label value (resolve e t)).rendered names =
          (Setter.mk label value (resolve e last)).rendered names := by
  obtain ⟨wrappers, last, unwraps, plainLast, chain⟩ := resolve_unwraps e t
  have ends := plain_ends e last
  refine ⟨wrappers, last, unwraps, ?_, ?_, ?_⟩
  · rw [plainLast, chain]
  · rw [plainLast]
    exact ⟨ends.kind_ne_optional, ends.inner?_eq_none, plain_target e last, ends⟩
  · intro label value names
    rw [plainLast, chain]
    exact Setter.convert_optionals names value (plain e last) wrappers

end Conversion

end ComponentMarkup
