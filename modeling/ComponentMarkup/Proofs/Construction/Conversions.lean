import ComponentMarkup.Construction.Conversion

/-!
# Conversions and the types that they are for

A conversion goes as deep as its type is optional.

## Main definitions

* `Conversion.Fits` — the shape of a conversion is the one of a type.

## Main statements

* `Conversion.resolve_fits` — conversions that are resolved fit.
-/

namespace ComponentMarkup

namespace Conversion

/-- An optional conversion is for a type that wraps another one, and goes on with a conversion for
the type that it wraps. -/
inductive Fits : Conversion → FieldType → Prop where
  | optional {t inner : FieldType} {c : Conversion} :
      t.isOptional = true → t.inner? = some inner → Fits c inner → Fits (.optional t c) t
  | plain {t : FieldType} {c : Conversion} :
      t.isOptional = false → c.inner? = none → c.target = t → Fits c t

theorem plain_fits (e : Expression) {t : FieldType} (h : t.isOptional = false) :
    Fits (plain e t) t := by
  cases e with
  | literal value span =>
    simp only [plain, ofLiteral]
    split
    · exact .plain h rfl rfl
    · split <;> exact .plain h rfl rfl
  | _ =>
    simp only [plain]
    split <;> exact .plain h rfl rfl

theorem resolve_fits (e : Expression) (t : FieldType) : Fits (resolve e t) t := by
  fun_induction resolve e t with
  | case1 name inner isOption ih =>
    exact .optional
      (by simp [FieldType.isOptional, FieldType.name, isOption, FieldType.inner?]) rfl ih
  | case2 name inner notOption =>
    exact plain_fits e (by simp [FieldType.isOptional, FieldType.name, notOption])
  | case3 t noInner =>
    refine plain_fits e ?_
    obtain ⟨name, parameters⟩ := t
    rcases parameters with _ | ⟨inner, _ | ⟨second, more⟩⟩
    · simp [FieldType.isOptional, FieldType.inner?]
    · exact absurd rfl (noInner name inner)
    · simp [FieldType.isOptional, FieldType.inner?]

end Conversion

end ComponentMarkup
