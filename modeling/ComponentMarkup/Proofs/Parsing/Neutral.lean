import ComponentMarkup.Proofs.Parsing.Contracts
import ComponentMarkup.Proofs.Parsing.TagEnds

/-!
# Tokens that do not end a tag

Outside of groups, type paths and declarations hold neither angle brackets nor slashes. So the
search for the end of a tag passes over them, in whatever order they stand.

## Main definitions

* `Neutral` — tokens without an angle bracket or a slash outside of groups.

## Main statements

* `Neutral.isInside` — neutral tokens stand inside of a tag.
* `Grammar.IsTypePath.neutral`, `Grammar.IsDeclaration.neutral` — what is neutral.
-/

namespace ComponentMarkup

open Grammar

/-- A token that opens no group and has no part in where a tag ends. -/
structure Token.IsNeutral (t : Token) : Prop where
  opens : t.opens? = none
  notLessThan : t.isMark .lessThan = false
  notGreaterThan : t.isMark .greaterThan = false
  notSlash : t.isMark .slash = false

/-- Neutral tokens and whole groups. -/
inductive Neutral : List Token → Prop where
  | nil : Neutral []
  | single {t : Token} {ts : List Token} : t.IsNeutral → Neutral ts → Neutral (t :: ts)
  | group {opener closer : Token} {m : Mark} {inside ts : List Token} :
      opener.opens? = some m → Balanced inside → closer.closes? = some m → Neutral ts →
      Neutral (opener :: inside ++ closer :: ts)

variable {t : Token} {ts us rest : List Token} {m : Mark}

namespace Token.IsNeutral

theorem of_isIdentifier (h : t.isIdentifier = true) : t.IsNeutral where
  opens := opens?_of_isIdentifier h
  notLessThan := isMark_of_isIdentifier h _
  notGreaterThan := isMark_of_isIdentifier h _
  notSlash := isMark_of_isIdentifier h _

theorem of_isMark (h : t.isMark m = true) (plain : m.closer? = none)
    (other : m ∉ [Mark.lessThan, .greaterThan, .slash]) : t.IsNeutral := by
  simp only [List.mem_cons, List.not_mem_nil, or_false, not_or] at other
  obtain ⟨notLessThan, notGreaterThan, notSlash⟩ := other
  exact ⟨(opens?_of_isMark h).trans plain, isMark_of_isMark h notLessThan,
    isMark_of_isMark h notGreaterThan, isMark_of_isMark h notSlash⟩

theorem of_mark? (h : t.mark? = none) : t.IsNeutral := by
  have noMark : ∀ m, t.isMark m = false := by
    intro m
    rw [Bool.eq_false_iff, ne_eq, isMark_iff, h]
    exact nofun
  refine ⟨?_, noMark _, noMark _, noMark _⟩
  rw [opens?, h]
  rfl

theorem of_isNegated {value : Value} (h : IsNegated t.content value) : t.IsNeutral := by
  refine of_mark? ?_
  rw [mark?]
  generalize t.content = content at h
  cases h <;> rfl

end Token.IsNeutral

namespace Neutral

theorem append (h : Neutral ts) (h' : Neutral us) : Neutral (ts ++ us) := by
  induction h with
  | nil => exact h'
  | single first _ ih => exact .single first ih
  | group opens balanced closes _ ih =>
    rw [List.append_assoc, List.cons_append]
    exact .group opens balanced closes ih

/-- Neutral tokens do not start with a `>`. -/
theorem not_meetsCloser (h : Neutral ts) (follow : ¬ MeetsCloser rest) :
    ¬ MeetsCloser (ts ++ rest) := by
  cases h with
  | nil => exact follow
  | single first _ =>
    rw [List.cons_append, meetsCloser_cons, first.notGreaterThan]
    exact Bool.false_ne_true
  | group opens =>
    rw [List.cons_append, List.cons_append, meetsCloser_cons]
    intro isCloser
    rw [Token.opens?_of_isMark isCloser] at opens
    cases opens

/-- Neutral tokens stand inside of a tag, unless a `>` comes behind them, which would make an arrow
of a dash at their end. -/
theorem isInside {depth : Nat} (h : Neutral ts) (follow : ¬ MeetsCloser rest) :
    IsInside depth ts rest := by
  induction h with
  | nil => exact .nil
  | single first behind ih =>
    exact .single first.opens first.notLessThan first.notGreaterThan
      (fun _ => behind.not_meetsCloser follow) (fun _ _ => behind.not_meetsCloser follow) ih
  | group opens balanced closes _ ih => exact .group opens balanced closes ih

theorem of_repeated {α : Type} {G : List Token → α → Prop} {as : List α} (h : Repeated G ts as)
    (each : ∀ {ts a}, G ts a → Neutral ts) : Neutral ts := by
  induction h with
  | nil => exact .nil
  | cons first _ ih => exact (each first).append ih

end Neutral

/-! ## What is neutral -/

namespace Grammar

theorem isNeutral_of_colon (h : t.isMark .colon = true) : t.IsNeutral :=
  .of_isMark h rfl (by decide)

theorem IsOptional.neutral (h : IsOptional m ts) (plain : m.closer? = none)
    (other : m ∉ [Mark.lessThan, .greaterThan, .slash]) : Neutral ts := by
  cases h with
  | absent => exact .nil
  | present is => exact .single (.of_isMark is plain other) .nil

theorem IsLeading.neutral {leading : Bool} (h : IsLeading ts leading) : Neutral ts := by
  cases h with
  | absent => exact .nil
  | present a b => exact .single (isNeutral_of_colon a) (.single (isNeutral_of_colon b) .nil)

theorem IsTypePath.neutral {p : TypePath} (h : IsTypePath ts p) : Neutral ts := by
  obtain ⟨leads, isFirst, repeated⟩ := h
  refine leads.neutral.append (.single (.of_isIdentifier isFirst) (.of_repeated repeated ?_))
  rintro us name ⟨a, b, isName⟩
  exact .single (isNeutral_of_colon a) (.single (isNeutral_of_colon b)
    (.single (.of_isIdentifier isName) .nil))

theorem IsPathSegment.neutral {segment : Separator × Token} (h : IsPathSegment ts segment) :
    Neutral ts := by
  cases h with
  | colons a b isName =>
    exact .single (isNeutral_of_colon a) (.single (isNeutral_of_colon b)
      (.single (.of_isIdentifier isName) .nil))
  | dot isPoint isName =>
    exact .single (.of_isMark isPoint rfl (by decide)) (.single (.of_isIdentifier isName) .nil)

theorem IsValuePath.neutral {p : ValuePath} (h : IsValuePath ts p) : Neutral ts := by
  obtain ⟨leads, isFirst, repeated⟩ := h
  exact leads.neutral.append
    (.single (.of_isIdentifier isFirst) (.of_repeated repeated IsPathSegment.neutral))

theorem neutral_group {opener closer : Token} {m n : Mark} {inside : List Token}
    (opens : opener.isMark m = true) (pair : m.closer? = some n) (balanced : Balanced inside)
    (closes : closer.isMark n = true) : Neutral (opener :: inside ++ [closer]) :=
  .group ((Token.opens?_of_isMark opens).trans pair) balanced
    (Token.closes?_eq_some_iff.2 ⟨Token.isMark_iff.1 closes, Mark.closes_of_closer? pair⟩) .nil

theorem IsExpression.neutral {e : Expression} (h : IsExpression ts e) : Neutral ts := by
  cases h with
  | literal value => exact .single (.of_mark? (Token.mark?_of_literal? value)) .nil
  | negative isMinus negated =>
    exact .single (.of_isMark isMinus rfl (by decide)) (.single (.of_isNegated negated) .nil)
  | block opens balanced closes => exact neutral_group opens rfl balanced closes
  | path isPath => exact isPath.neutral
  | call isPath opens balanced closes =>
    exact isPath.neutral.append (neutral_group opens rfl balanced closes)

theorem IsLabel.neutral {l : Label} (h : IsLabel ts l) : Neutral ts := by
  obtain ⟨isName, repeated⟩ := h
  refine .single (.of_isIdentifier isName) (.of_repeated repeated ?_)
  rintro us name ⟨isDash, isNext⟩
  exact .single (.of_isMark isDash rfl (by decide)) (.single (.of_isIdentifier isNext) .nil)

theorem IsDeclaration.neutral {p : Property} (h : IsDeclaration ts p) : Neutral ts := by
  obtain ⟨isLabel, isAssign, isExpression, isComma⟩ := h
  exact isLabel.neutral.append (.single (.of_isMark isAssign rfl (by decide))
    (isExpression.neutral.append (isComma.neutral rfl (by decide))))

end Grammar

end ComponentMarkup
