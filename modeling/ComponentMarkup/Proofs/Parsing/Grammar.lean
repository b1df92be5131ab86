import ComponentMarkup.Tag.Component

/-!
# The grammar of a tag's interior

Which token lists are a type path, an expression, a property, and so on, and which tree each of them
stands for. A rule is a constructor; it names the tokens that it is made of and the node that comes
out, whose span runs from the first of these tokens to the last.

## Main definitions

* `Balanced` — tokens in which the brackets of all three kinds match.
* `IsTypePath`, `IsValuePath`, `IsExpression`, `IsProperty` — the parts of an interior.
* `IsDeclaration` — what is read as a property, before its label is looked at.
* `IsProperties` — the two forms of properties, or none.
* `IsInterior` — a whole interior.
-/

namespace ComponentMarkup

/-- Every bracket has its counterpart; all other tokens stand where they like. -/
inductive Balanced : List Token → Prop where
  | nil : Balanced []
  | other {t : Token} {ts : List Token} :
      t.opens? = none → t.closes? = none → Balanced ts → Balanced (t :: ts)
  | group {opener closer : Token} {m : Mark} {inside ts : List Token} :
      opener.opens? = some m → Balanced inside → closer.closes? = some m → Balanced ts →
      Balanced (opener :: inside ++ closer :: ts)

namespace Grammar

/-- Any number of `G`, one behind the other. -/
inductive Repeated {α : Type} (G : List Token → α → Prop) : List Token → List α → Prop where
  | nil : Repeated G [] []
  | cons {ts us : List Token} {a : α} {as : List α} :
      G ts a → Repeated G us as → Repeated G (ts ++ us) (a :: as)

namespace Repeated

variable {α : Type} {G H : List Token → α → Prop} {ts : List Token} {as : List α}

theorem imp (h : Repeated G ts as) (step : ∀ {ts}, ∀ a ∈ as, G ts a → H ts a) :
    Repeated H ts as := by
  induction h with
  | nil => exact .nil
  | cons first _ ih =>
    exact .cons (step _ List.mem_cons_self first)
      (ih fun a ha => step a (List.mem_cons_of_mem _ ha))

theorem forall_mem (h : Repeated G ts as) {P : α → Prop} (step : ∀ {ts a}, G ts a → P a) :
    ∀ a ∈ as, P a := by
  induction h with
  | nil => nofun
  | cons first _ ih => exact List.forall_mem_cons.2 ⟨step first, ih⟩

theorem exists_of_mem {a : α} (h : Repeated G ts as) (mem : a ∈ as) :
    ∃ us, G us a ∧ us <:+: ts := by
  induction h with
  | nil => cases mem
  | @cons us vs b bs first _ ih =>
    rcases List.mem_cons.1 mem with rfl | mem
    · exact ⟨us, first, (List.prefix_append us vs).isInfix⟩
    · obtain ⟨ws, isA, inside⟩ := ih mem
      exact ⟨ws, isA, inside.trans (List.suffix_append us vs).isInfix⟩

end Repeated

/-- A mark, or nothing. -/
inductive IsOptional (m : Mark) : List Token → Prop where
  | absent : IsOptional m []
  | present {t : Token} : t.isMark m = true → IsOptional m [t]

/-- A `::`, or nothing; and whether it is there. -/
inductive IsLeading : List Token → Bool → Prop where
  | absent : IsLeading [] false
  | present {a b : Token} :
      a.isMark .colon = true → b.isMark .colon = true → IsLeading [a, b] true

/-- A name behind `::`. -/
inductive IsTypeSegment : List Token → Token → Prop where
  | colons {a b name : Token} :
      a.isMark .colon = true → b.isMark .colon = true → name.isIdentifier = true →
      IsTypeSegment [a, b, name] name

/-- A name behind `::` or a point. -/
inductive IsPathSegment : List Token → Separator × Token → Prop where
  | colons {a b name : Token} :
      a.isMark .colon = true → b.isMark .colon = true → name.isIdentifier = true →
      IsPathSegment [a, b, name] (.colons, name)
  | dot {point name : Token} :
      point.isMark .dot = true → name.isIdentifier = true →
      IsPathSegment [point, name] (.dot, name)

/-- Of the form `[::] name (:: name)*`. -/
inductive IsTypePath : List Token → TypePath → Prop where
  | mk {colons ts : List Token} {leading : Bool} {first : Token} {more : List Token} :
      IsLeading colons leading → first.isIdentifier = true → Repeated IsTypeSegment ts more →
      IsTypePath (colons ++ first :: ts)
        ⟨leading, first, more, (colons.head?.getD first).spanTo (more.getLast?.getD first)⟩

/-- Of the form `[::] name ((:: | .) name)*`. -/
inductive IsValuePath : List Token → ValuePath → Prop where
  | mk {colons ts : List Token} {leading : Bool} {first : Token} {more : List (Separator × Token)} :
      IsLeading colons leading → first.isIdentifier = true → Repeated IsPathSegment ts more →
      IsValuePath (colons ++ first :: ts) {
        leadingColons := leading
        first := first.lexeme
        more := more.map fun (separator, name) => (separator, name.lexeme)
        span := (colons.head?.getD first).spanTo ((more.getLast?.map (·.2)).getD first) }

/-- The value of a number with a minus in front. -/
inductive IsNegated : Content → Value → Prop where
  | integer (n : Nat) : IsNegated (.integer n) (.integer (-n))
  | float (x : Decimal.Binary64) : IsNegated (.float x) (.float (-x))

/-- Of the form `literal`, `- number`, `{ … }`, `path` or `path ( … )`. -/
inductive IsExpression : List Token → Expression → Prop where
  | literal {t : Token} {value : Value} :
      t.content.literal? = some value → IsExpression [t] (.literal value t.span)
  | negative {minus number : Token} {value : Value} :
      minus.isMark .minus = true → IsNegated number.content value →
      IsExpression [minus, number] (.literal value (minus.spanTo number))
  | block {opener closer : Token} {inside : List Token} :
      opener.isMark .leftBrace = true → Balanced inside → closer.isMark .rightBrace = true →
      IsExpression (opener :: inside ++ [closer]) (.block inside (opener.spanTo closer))
  | path {ts : List Token} {p : ValuePath} : IsValuePath ts p → IsExpression ts (.path p)
  | call {ts inside : List Token} {p : ValuePath} {opener closer : Token} :
      IsValuePath ts p → opener.isMark .leftParen = true → Balanced inside →
      closer.isMark .rightParen = true →
      IsExpression (ts ++ (opener :: inside ++ [closer]))
        (.call p inside ⟨p.span.start, closer.stop⟩)

/-- A name behind a dash. -/
inductive IsExtension : List Token → Token → Prop where
  | dash {dash name : Token} :
      dash.isMark .minus = true → name.isIdentifier = true → IsExtension [dash, name] name

/-- Of the form `name (- name)*`. -/
inductive IsLabel : List Token → Label → Prop where
  | mk {ts : List Token} {name : Token} {more : List Token} :
      name.isIdentifier = true → Repeated IsExtension ts more →
      IsLabel (name :: ts) ⟨name, more, name.spanTo (more.getLast?.getD name)⟩

/-- Of the form `label = expression [,]`. A dashed label is read, but no property has one. -/
inductive IsDeclaration : List Token → Property → Prop where
  | mk {ls ts comma : List Token} {label : Label} {assign : Token} {e : Expression} :
      IsLabel ls label → assign.isMark .assign = true → IsExpression ts e →
      IsOptional .comma comma →
      IsDeclaration (ls ++ assign :: (ts ++ comma)) ⟨label, e, ⟨label.span.start, e.span.stop⟩⟩

/-- Of the form `name = expression [,]`. -/
inductive IsProperty : List Token → Property → Prop where
  | mk {name assign : Token} {ts comma : List Token} {e : Expression} :
      name.isIdentifier = true → assign.isMark .assign = true → IsExpression ts e →
      IsOptional .comma comma →
      IsProperty (name :: assign :: (ts ++ comma))
        ⟨⟨name, [], name.span⟩, e, ⟨name.start, e.span.stop⟩⟩

/-- What is kept of declared properties: the last one of each label, sorted by label. It is told by
the declarations alone, as their normal form (`isProperties_list_iff_isNormalForm`). -/
def kept (start : Source.Location) (declared : List Property) : PropertyList :=
  let stored := PropertyList.ordered (PropertyList.winners declared)
  ⟨stored, PropertyList.spanOf start stored⟩

/-- Nothing, `keyword name [,]`, or one property or more. -/
inductive IsProperties (config : Config) : List Token → Option PropertySpec → Prop where
  | none : IsProperties config [] none
  | delegate {keyword name : Token} {comma : List Token} :
      keyword.isIdentifier = true → keyword.lexeme = config.delegateKeyword →
      name.isIdentifier = true → IsOptional .comma comma →
      IsProperties config (keyword :: name :: comma)
        (some (.delegate ⟨name, keyword.spanTo name⟩))
  | list {ts : List Token} {first : Property} {more : List Property} :
      Repeated IsProperty ts (first :: more) → first.key ≠ config.delegateKeyword →
      (∀ p ∈ first :: more, p.key ≠ config.reservedLabel) →
      (config.duplicateLabels = .error → ((first :: more).map Property.key).Nodup) →
      IsProperties config ts (some (.list (kept first.span.start (first :: more))))

/-- A type path, a colon or none, and properties. -/
inductive IsInterior (config : Config) (span : Source.Span) : List Token → ComponentTag → Prop where
  | mk {path colon ts : List Token} {p : TypePath} {properties : Option PropertySpec} :
      IsTypePath path p → IsOptional .colon colon → IsProperties config ts properties →
      IsInterior config span (path ++ colon ++ ts) ⟨p, properties, span⟩

end Grammar

end ComponentMarkup
