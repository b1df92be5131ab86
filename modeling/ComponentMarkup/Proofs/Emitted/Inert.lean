import ComponentMarkup.Construction.Basic
import ComponentMarkup.Proofs.Lexing.Spellings
import ComponentMarkup.Proofs.Parsing.Grammar

/-!
# Inert texts

Who reads emitted code as far as its literals, comments, brackets and lines go looks for a dozen
characters. Names, numbers and paths have none of them.

## Main definitions

* `telling` — the characters that are looked for.
* `Inert` — a text without them.

## Main statements

* `IsSpelling.inert` — tokens are inert, except for strings and six kinds of brackets and one mark.
* `Value.inert_text` — the written form of a number or a boolean is inert.
* `Token.inert_render` — so is that of every token that is no string and no mark.
* `Grammar.IsTypePath.inert_text`, `Grammar.IsValuePath.inert_text` — paths are inert.
-/

namespace ComponentMarkup

open Grammar

/-- Quotation marks, backslashes, number signs, brackets and line breaks. -/
def telling : List Char := ['\'', '"', '\\', '#', '(', ')', '[', ']', '{', '}', '\n', '\r']

def Inert (s : List Char) : Prop := ∀ c ∈ s, c ∉ telling

instance (s : List Char) : Decidable (Inert s) := List.decidableBAll (· ∉ telling) s

namespace Inert

theorem nil : Inert [] := nofun

theorem append {s t : List Char} (hs : Inert s) (ht : Inert t) : Inert (s ++ t) := by
  intro c hc
  rcases List.mem_append.1 hc with hc | hc
  · exact hs c hc
  · exact ht c hc

theorem of_subset {s t : List Char} (ht : Inert t) (subset : s ⊆ t) : Inert s :=
  fun c hc => ht c (subset hc)

theorem flatMap {α : Type} {f : α → List Char} {as : List α} (h : ∀ a ∈ as, Inert (f a)) :
    Inert (as.flatMap f) := by
  intro c hc
  obtain ⟨a, ha, hc⟩ := List.mem_flatMap.1 hc
  exact h a ha c hc

theorem intercalate {separator : List Char} (hs : Inert separator) {parts : List (List Char)}
    (h : ∀ s ∈ parts, Inert s) : Inert (separator.intercalate parts) := by
  induction parts with
  | nil => exact .nil
  | cons s parts ih =>
    obtain ⟨first, more⟩ := List.forall_mem_cons.1 h
    cases parts with
    | nil => simpa [List.intercalate] using first
    | cons t parts =>
      rw [List.intercalate_cons_cons]
      exact (first.append hs).append (ih more)

/-- A class of characters without a telling one. -/
theorem of_class {p : Char → Bool} (none : telling.any p = false) {s : List Char}
    (h : ∀ c ∈ s, p c = true) : Inert s := by
  intro c hc isTelling
  exact List.any_eq_false.1 none c isTelling (h c hc)

end Inert

/-! ## Names and numbers -/

theorem inert_of_isNamePart {s : List Char} (h : ∀ c ∈ s, isNamePart c = true) : Inert s :=
  .of_class (by decide +kernel) h

theorem inert_of_isNumeralPart {s : List Char} (h : ∀ c ∈ s, isNumeralPart c = true) : Inert s :=
  .of_class (by decide +kernel) h

theorem Text.inert_of_isWord {s : List Char} (h : isWord s = true) : Inert s :=
  .of_class (by decide +kernel) (isWordContinue_of_isWord h)

/-- Of all tokens that are read, only strings, brackets and the number sign are not inert. -/
theorem IsSpelling.inert {content : Content} {s : List Char} (h : IsSpelling content s)
    (noString : ∀ value, content ≠ .string value)
    (noMark : ∀ m, content = .mark m → m.char ∉ telling) : Inert s := by
  cases h with
  | integer _ run =>
    exact inert_of_isNumeralPart fun c hc => isNumeralPart_of_isRunPart (run c hc)
  | float _ parts => exact inert_of_isNumeralPart parts
  | name start parts =>
    exact inert_of_isNamePart (List.forall_mem_cons.2 ⟨isNamePart_of_isNameStart start, parts⟩)
  | string => exact absurd rfl (noString _)
  | mark m =>
    intro c hc
    obtain rfl := List.mem_singleton.1 hc
    exact noMark m rfl

/-! ## Values -/

theorem inert_toDigits (n : Nat) : Inert (Nat.toDigits 10 n) := by
  have digits : ∀ c ∈ Nat.toDigits 10 n, c.isDigit = true := fun c hc =>
    Nat.isDigit_of_mem_toDigits (by decide) (by decide) hc
  exact .of_class (by decide) digits

theorem inert_toString_nat (n : Nat) : Inert (toString n).toList := by
  change Inert n.repr.toList
  rw [Nat.toList_repr]
  exact inert_toDigits n

theorem inert_toString_int (n : Int) : Inert (toString n).toList := by
  cases n with
  | ofNat n => exact inert_toString_nat n
  | negSucc n =>
    have minus : toString (Int.negSucc n) = "-" ++ (n + 1).repr := rfl
    rw [minus, String.toList_append]
    exact .append (by decide) (inert_toString_nat (n + 1))

namespace Decimal

theorem inert_zeros (n : Nat) : Inert (zeros n).toList := by
  induction n with
  | zero => exact .nil
  | succ n ih =>
    have last : zeros (n + 1) = (zeros n).push '0' := rfl
    rw [last, String.toList_push]
    exact ih.append (by decide)

theorem inert_layOutPositional {digits : List Char} (h : Inert digits) (exponent : Int) :
    Inert (layOutPositional digits exponent).toList := by
  unfold layOutPositional
  split
  · simp only [String.toList_append, String.toList_ofList]
    exact (Inert.append (by decide) (inert_zeros _)).append h
  · dsimp only
    split
    · simp only [String.toList_append, String.toList_ofList]
      exact (h.append (inert_zeros _)).append (by decide)
    · simp only [String.toList_append, String.toList_ofList]
      have front := h.of_subset (List.take_subset (exponent.toNat + 1) digits)
      have back := h.of_subset (List.drop_subset (exponent.toNat + 1) digits)
      exact (front.append (by decide)).append back

theorem inert_layOutScientific {digits : List Char} (h : Inert digits) (exponent : Int) :
    Inert (layOutScientific digits exponent).toList := by
  have first := h.of_subset (List.take_subset 1 digits)
  have more : Inert (if digits.length ≤ 1 then "" else "." ++ .ofList (digits.drop 1)).toList := by
    split
    · exact .nil
    · simp only [String.toList_append, String.toList_ofList]
      exact .append (by decide) (h.of_subset (List.drop_subset 1 digits))
  have sign : Inert (if exponent < 0 then "-" else "+").toList := by
    split <;> decide
  unfold layOutScientific
  simp only [String.toList_append, String.toList_ofList]
  exact ((((first.append more).append (by decide)).append sign).append (inert_zeros _)).append
    (inert_toString_nat _)

theorem Binary64.inert_text (x : Binary64) : Inert x.text.toList := by
  unfold text
  rw [String.toList_append]
  refine .append (by split <;> decide) ?_
  split
  · decide
  · dsimp only
    split
    · exact inert_layOutPositional (inert_toDigits _) _
    · exact inert_layOutScientific (inert_toDigits _) _

end Decimal

/-- Only a string is written with telling characters. -/
theorem Value.inert_text {value : Value} (h : ∀ s, value ≠ .string s) :
    Inert value.text.toList := by
  cases value with
  | string s => exact absurd rfl (h s)
  | integer n => exact inert_toString_int n
  | float x => exact x.inert_text
  | boolean b => cases b <;> decide

/-! ## Tokens -/

namespace Token

variable {t : Token}

theorem render_of_string {s : List Text.CodePoint} (string : t.content = .string s) :
    t.render.toList = Text.quote s := by
  simp [render, string, Value.text]

theorem render_of_mark {m : Mark} (spelled : IsSpelling t.content t.lexeme.toList)
    (mark : t.content = .mark m) : t.render.toList = [m.char] := by
  have render : t.render = t.lexeme := by simp [Token.render, mark]
  rw [mark] at spelled
  rw [render, spelled.eq_of_mark]

/-- All else than strings and marks is written inert. -/
theorem inert_render (spelled : IsSpelling t.content t.lexeme.toList)
    (noString : ∀ s, t.content ≠ .string s) (noMark : ∀ m, t.content ≠ .mark m) :
    Inert t.render.toList := by
  unfold render
  split
  case h_1 s string => exact absurd string (noString s)
  case h_2 b _ => exact Value.inert_text (by simp)
  case h_3 => exact spelled.inert noString fun m mark => absurd mark (noMark m)

end Token

/-! ## Paths -/

namespace Path

theorem inert_dotted {path : String} (h : Inert path.toList) : Inert (dotted path).toList := by
  rw [dotted, String.toList_ofList]
  have point : Inert ('.' :: dropColons path.toList) :=
    Inert.append (by decide : Inert ['.']) (h.of_subset (dropColons_subset _))
  exact point.of_subset (withDots_subset _)

end Path

/-- The tokens of a source are spelled as their kinds ask for. -/
def Spelled (ts : List Token) : Prop := ∀ t ∈ ts, IsSpelling t.content t.lexeme.toList

namespace Spelled

variable {ts us : List Token}

theorem of_subset (h : Spelled ts) (subset : us ⊆ ts) : Spelled us := fun t ht => h t (subset ht)

theorem inert_name (h : Spelled ts) {t : Token} (mem : t ∈ ts) (name : t.isIdentifier = true) :
    Inert t.lexeme.toList := by
  simp only [Token.isIdentifier, decide_eq_true_eq] at name
  exact (h t mem).inert (by simp [name]) (by simp [name])

end Spelled

namespace Grammar

variable {ts : List Token}

theorem IsTypePath.inert_text {p : TypePath} (h : IsTypePath ts p) (spelled : Spelled ts) :
    Inert p.text.toList := by
  obtain @⟨colons, us, leading, first, more, -, isFirst, repeated⟩ := h
  have inert : ∀ t ∈ first :: more, Inert t.lexeme.toList := by
    refine List.forall_mem_cons.2 ⟨spelled.inert_name (by simp) isFirst, fun t ht => ?_⟩
    obtain ⟨vs, segment, inside⟩ := repeated.exists_of_mem ht
    cases segment with
    | colons _ _ name =>
      have mem : t ∈ us := inside.subset (by simp)
      exact spelled.inert_name (by simp [mem]) name
  have names : Inert ("::".intercalate ((first :: more).map Token.lexeme)).toList := by
    rw [String.toList_intercalate]
    refine .intercalate (by decide) fun s hs => ?_
    simp only [List.map_map, List.mem_map, Function.comp_apply] at hs
    obtain ⟨t, ht, rfl⟩ := hs
    exact inert t ht
  unfold TypePath.text
  rw [String.toList_append]
  exact .append (by split <;> decide) names

theorem IsValuePath.inert_text {p : ValuePath} (h : IsValuePath ts p) (spelled : Spelled ts) :
    Inert p.text.toList := by
  obtain @⟨colons, us, leading, first, more, -, isFirst, repeated⟩ := h
  have segments : ∀ s ∈ more, Inert (s.1.text ++ s.2.lexeme).toList := by
    intro s hs
    obtain ⟨vs, segment, inside⟩ := repeated.exists_of_mem hs
    rw [String.toList_append]
    cases segment with
    | @colons a b t _ _ name =>
      have mem : t ∈ us := inside.subset (by simp)
      exact .append (by decide : Inert ("::").toList) (spelled.inert_name (by simp [mem]) name)
    | @dot a t _ name =>
      have mem : t ∈ us := inside.subset (by simp)
      exact .append (by decide : Inert (".").toList) (spelled.inert_name (by simp [mem]) name)
  have tail : Inert (String.join (more.map fun s => s.1.text ++ s.2.lexeme)).toList := by
    rw [String.toList_join, List.flatMap_map]
    exact .flatMap segments
  unfold ValuePath.text
  simp only [String.toList_append, List.map_map]
  refine (Inert.append (by split <;> decide) (spelled.inert_name (by simp) isFirst)).append ?_
  exact tail

end Grammar

end ComponentMarkup
