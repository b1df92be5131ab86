import ComponentMarkup.Proofs.Parsing.Groups

/-!
# The texts of paths

The text of a path is what its tokens are spelled with, one behind the other.

## Main definitions

* `MarksSpelled` — tokens of which the marks are spelled with their own characters.

## Main statements

* `Grammar.IsTypePath.text_eq_join`, `Grammar.IsValuePath.text_eq_join` — the text of a path.
-/

namespace ComponentMarkup

/-- What a list is joined to is its first text, and each other text with a separator in front. -/
theorem String.intercalate_cons (separator first : String) (more : List String) :
    separator.intercalate (first :: more) = first ++ String.join (more.map (separator ++ ·)) := by
  apply String.toList_inj.1
  simp only [String.toList_intercalate, String.toList_append, String.toList_join, List.map_cons,
    List.flatMap_map]
  induction more generalizing first with
  | nil => simp
  | cons second more ih =>
    rw [List.map_cons, List.intercalate_cons_cons, ih]
    simp

def MarksSpelled (ts : List Token) : Prop := ∀ t ∈ ts, ∀ m ∈ t.mark?, t.lexeme = .singleton m.char

instance (ts : List Token) : Decidable (MarksSpelled ts) :=
  inferInstanceAs (Decidable (∀ t ∈ ts, ∀ m ∈ t.mark?, t.lexeme = .singleton m.char))

namespace MarksSpelled

variable {t : Token} {ts us : List Token}

theorem of_subset (h : MarksSpelled ts) (subset : us ⊆ ts) : MarksSpelled us :=
  fun t ht => h t (subset ht)

theorem cons_iff : MarksSpelled (t :: ts) ↔
    (∀ m, t.isMark m = true → t.lexeme = .singleton m.char) ∧ MarksSpelled ts := by
  simp only [Token.isMark_iff]
  exact List.forall_mem_cons

theorem append_iff : MarksSpelled (ts ++ us) ↔ MarksSpelled ts ∧ MarksSpelled us :=
  List.forall_mem_append

end MarksSpelled

namespace Grammar

variable {ts : List Token}

theorem IsLeading.text_eq_join {leading : Bool} (h : IsLeading ts leading)
    (spelled : MarksSpelled ts) :
    (if leading then "::" else "") = String.join (ts.map Token.lexeme) := by
  cases h with
  | absent => rfl
  | present a b =>
    simp only [MarksSpelled.cons_iff] at spelled
    obtain ⟨first, second, -⟩ := spelled
    simp only [List.map_cons, List.map_nil, first _ a, second _ b]
    rfl

theorem IsTypeSegment.text_eq_join {t : Token} (h : IsTypeSegment ts t)
    (spelled : MarksSpelled ts) : "::" ++ t.lexeme = String.join (ts.map Token.lexeme) := by
  cases h with
  | colons a b name =>
    simp only [MarksSpelled.cons_iff] at spelled
    obtain ⟨first, second, -⟩ := spelled
    simp only [List.map_cons, List.map_nil, first _ a, second _ b, String.join_cons,
      String.join_nil, String.append_empty, ← String.append_assoc]
    rfl

theorem IsPathSegment.text_eq_join {segment : Separator × Token} (h : IsPathSegment ts segment)
    (spelled : MarksSpelled ts) :
    segment.1.text ++ segment.2.lexeme = String.join (ts.map Token.lexeme) := by
  cases h with
  | colons a b name => exact (IsTypeSegment.colons a b name).text_eq_join spelled
  | dot point name =>
    simp only [MarksSpelled.cons_iff] at spelled
    simp only [List.map_cons, List.map_nil, spelled.1 _ point, String.join_cons, String.join_nil,
      String.append_empty]
    rfl

theorem Repeated.text_eq_join {α : Type} {G : List Token → α → Prop} {as : List α}
    {text : α → String} (h : Repeated G ts as)
    (each : ∀ {us a}, G us a → MarksSpelled us → text a = String.join (us.map Token.lexeme))
    (spelled : MarksSpelled ts) :
    String.join (as.map text) = String.join (ts.map Token.lexeme) := by
  induction h with
  | nil => rfl
  | cons first _ ih =>
    obtain ⟨left, right⟩ := MarksSpelled.append_iff.1 spelled
    rw [List.map_cons, String.join_cons, List.map_append, String.join_append, each first left,
      ih right]

theorem IsTypePath.text_eq_join {p : TypePath} (h : IsTypePath ts p) (spelled : MarksSpelled ts) :
    p.text = String.join (ts.map Token.lexeme) := by
  obtain ⟨leads, -, repeated⟩ := h
  obtain ⟨leading, rest⟩ := MarksSpelled.append_iff.1 spelled
  have more := repeated.text_eq_join IsTypeSegment.text_eq_join (MarksSpelled.cons_iff.1 rest).2
  unfold TypePath.text
  simp only [TypePath.segments, TypePath.names, List.map_cons, String.intercalate_cons,
    List.map_map, List.map_append, String.join_append, String.join_cons, ← more,
    ← leads.text_eq_join leading]
  rfl

theorem IsValuePath.text_eq_join {p : ValuePath} (h : IsValuePath ts p)
    (spelled : MarksSpelled ts) : p.text = String.join (ts.map Token.lexeme) := by
  obtain ⟨leads, -, repeated⟩ := h
  obtain ⟨leading, rest⟩ := MarksSpelled.append_iff.1 spelled
  have more := repeated.text_eq_join IsPathSegment.text_eq_join (MarksSpelled.cons_iff.1 rest).2
  unfold ValuePath.text
  simp only [List.map_map, List.map_append, String.join_append, String.join_cons,
    List.map_cons, ← more, ← leads.text_eq_join leading, String.append_assoc]
  rfl

end Grammar

end ComponentMarkup
