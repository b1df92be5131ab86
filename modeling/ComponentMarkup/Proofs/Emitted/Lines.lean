import ComponentMarkup.Proofs.Emitted.Literals
import ComponentMarkup.Proofs.Emitted.Parts

/-!
# The lines of emitted code

What comes out of a compilation is two lines, whatever line breaks the source has in its gaps,
comments and strings. Nothing of a source can add a line of code.

## Main definitions

* `IsOneLine` — a text that no character ends a line in.
* `Construction.IsTwoLines` — a line that makes a scope, and one with the expression.

## Main statements

* `Text.isOneLine_quote` — a written value is one line.
* `isOneLine_renderTokens` — the tokens of a group are written in one line.
* `Construction.isTwoLines_of_compile` — emitted code is two lines.
-/

namespace ComponentMarkup

/-- Neither a line feed nor a carriage return is in the text. -/
def IsOneLine (s : List Char) : Prop := '\n' ∉ s ∧ '\r' ∉ s

namespace IsOneLine

variable {s t : List Char}

theorem iff_forall_mem : IsOneLine s ↔ ∀ c ∈ s, c ≠ '\n' ∧ c ≠ '\r' := by
  constructor
  · rintro ⟨feed, carriage⟩ c hc
    exact ⟨ne_of_mem_of_not_mem hc feed, ne_of_mem_of_not_mem hc carriage⟩
  · intro h
    exact ⟨fun mem => (h _ mem).1 rfl, fun mem => (h _ mem).2 rfl⟩

theorem append (hs : IsOneLine s) (ht : IsOneLine t) : IsOneLine (s ++ t) :=
  ⟨by simp [hs.1, ht.1], by simp [hs.2, ht.2]⟩

theorem cons {c : Char} (hc : c ≠ '\n' ∧ c ≠ '\r') (hs : IsOneLine s) : IsOneLine (c :: s) :=
  iff_forall_mem.2 (List.forall_mem_cons.2 ⟨hc, iff_forall_mem.1 hs⟩)

theorem flatMap {α : Type} {f : α → List Char} {as : List α} (h : ∀ a ∈ as, IsOneLine (f a)) :
    IsOneLine (as.flatMap f) := by
  rw [iff_forall_mem]
  intro c mem
  obtain ⟨a, ha, mem⟩ := List.mem_flatMap.1 mem
  exact iff_forall_mem.1 (h a ha) c mem

theorem of_inert (h : Inert s) : IsOneLine s :=
  ⟨fun mem => h _ mem (by decide), fun mem => h _ mem (by decide)⟩

/-- Between its parts composed code breaks no line. -/
theorem of_composed {Part : List Char → Prop} (h : Composed Part s)
    (parts : ∀ p, Part p → IsOneLine p) : IsOneLine s := by
  induction h with
  | nil => exact .of_inert .nil
  | @inert c s telling _ ih =>
    have single : IsOneLine [c] := .of_inert (List.forall_mem_singleton.2 telling)
    exact single.append ih
  | part isPart _ _ ih => exact (parts _ isPart).append ih
  | brackets _ _ ihInside ihBehind =>
    exact .cons (by decide) (ihInside.append (.cons (by decide) ihBehind))

end IsOneLine

/-! ## Parts -/

namespace Text

theorem Quoted.isOneLine_of_isEscape {m : Char} (hm : Literal.isMark m = true) {p : CodePoint}
    {s : List Char} (h : IsEscape m p s) : IsOneLine s := by
  cases h with
  | @marked c special =>
    have isMark : m = '\'' ∨ m = '"' := by simpa [Literal.isMark] using hm
    refine .cons (by decide) (.cons ?_ (.of_inert .nil))
    constructor <;> rintro rfl <;> grind
  | @named c d named =>
    refine .cons (by decide) (.cons ?_ (.of_inert .nil))
    constructor <;> rintro rfl <;> simp at named
  | number =>
    obtain ⟨letter, width, eq, pair, -⟩ := byNumber_cases p
    have digits : IsOneLine (hexDigits width p.val) :=
      ⟨fun mem => hexDigits_plain _ _ _ mem (by decide),
        fun mem => hexDigits_plain _ _ _ mem (by decide)⟩
    rw [eq]
    refine .cons (by decide) (.cons ?_ digits)
    constructor <;> rintro rfl <;> simp at pair
  | plain _ _ feed carriage => exact .cons ⟨feed, carriage⟩ (.of_inert .nil)

/-- A written value is one line. -/
theorem isOneLine_quote (s : List CodePoint) : IsOneLine (quote s) := by
  have isMark := Quoted.isMark_mark s
  have mark : Quoted.mark s ≠ '\n' ∧ Quoted.mark s ≠ '\r' := by
    unfold Quoted.mark
    split <;> decide
  refine .append (.cons mark (.flatMap fun p _ => ?_)) (.cons mark (.of_inert .nil))
  exact Quoted.isOneLine_of_isEscape isMark (Quoted.isEscape _ p)

end Text

/-- A token is written in one line even if it stands in several lines of the source. -/
theorem Token.isOneLine_render {t : Token} (spelled : IsSpelling t.content t.lexeme.toList) :
    IsOneLine t.render.toList := by
  by_cases isString : ∃ s, t.content = .string s
  · obtain ⟨s, string⟩ := isString
    rw [render_of_string string]
    exact Text.isOneLine_quote s
  by_cases isMark : ∃ m, t.content = .mark m
  · obtain ⟨m, mark⟩ := isMark
    rw [render_of_mark spelled mark]
    cases m <;> exact ⟨by decide, by decide⟩
  · exact .of_inert (inert_render spelled (fun s string => isString ⟨s, string⟩)
      fun m mark => isMark ⟨m, mark⟩)

namespace RenderedPiece

theorem mem_joinAfter {stop : Nat} {ps : List RenderedPiece} {c : Char}
    (h : c ∈ (joinAfter stop ps).toList) : c = ' ' ∨ ∃ p ∈ ps, c ∈ p.text.toList := by
  induction ps generalizing stop with
  | nil => cases h
  | cons p ps ih =>
    simp only [joinAfter, String.toList_append, List.mem_append] at h
    rcases h with (gap | text) | more
    · split at gap
      · cases gap
      · exact .inl (List.mem_singleton.1 gap)
    · exact .inr ⟨p, List.mem_cons_self, text⟩
    · rcases ih more with space | ⟨q, hq, text⟩
      · exact .inl space
      · exact .inr ⟨q, List.mem_cons_of_mem p hq, text⟩

theorem text_of_mem_ofTokens {ts : List Token} {p : RenderedPiece} (h : p ∈ ofTokens ts) :
    p.text = "." ∨ ∃ t ∈ ts, p.text = t.render := by
  fun_induction ofTokens ts with
  | case1 a b ts _ ih =>
    rcases List.mem_cons.1 h with rfl | h
    · exact .inl rfl
    · rcases ih h with point | ⟨t, ht, text⟩
      · exact .inl point
      · exact .inr ⟨t, by simp [ht], text⟩
  | case2 a b ts _ ih =>
    rcases List.mem_cons.1 h with rfl | h
    · exact .inr ⟨a, List.mem_cons_self, rfl⟩
    · rcases ih h with point | ⟨t, ht, text⟩
      · exact .inl point
      · exact .inr ⟨t, List.mem_cons_of_mem a ht, text⟩
  | case3 a =>
    obtain rfl := List.mem_singleton.1 h
    exact .inr ⟨a, List.mem_cons_self, rfl⟩
  | case4 => cases h

end RenderedPiece

/-- What is written for tokens is a space, a point, or written for one of them. -/
theorem mem_renderTokens {ts : List Token} {c : Char} (h : c ∈ (renderTokens ts).toList) :
    c = ' ' ∨ c = '.' ∨ ∃ t ∈ ts, c ∈ t.render.toList := by
  rw [renderTokens, RenderedPiece.join_eq_joinAfter] at h
  rcases RenderedPiece.mem_joinAfter h with space | ⟨p, hp, text⟩
  · exact .inl space
  · rcases RenderedPiece.text_of_mem_ofTokens hp with point | ⟨t, ht, rendered⟩
    · rw [point] at text
      exact .inr (.inl (List.mem_singleton.1 text))
    · exact .inr (.inr ⟨t, ht, rendered ▸ text⟩)

theorem isOneLine_renderTokens {ts : List Token} (spelled : Spelled ts) :
    IsOneLine (renderTokens ts).toList := by
  rw [IsOneLine.iff_forall_mem]
  intro c mem
  rcases mem_renderTokens mem with rfl | rfl | ⟨t, ht, mem⟩
  · decide
  · decide
  · exact IsOneLine.iff_forall_mem.1 (Token.isOneLine_render (spelled t ht)) c mem

/-- Parts are written in one line if the module of the runtime names is. -/
theorem ComponentTag.HasPart.isOneLine {registry : Registry} {config : Config}
    {file : Option String} {source : String} {c : Compilation}
    (done : compile registry config file source = .ok (some c))
    (runtime : IsOneLine config.runtimeModule.toList) {p : List Char}
    (h : c.tag.HasPart config.runtimeModule p) : IsOneLine p := by
  cases h with
  | runtime => exact runtime
  | string s => exact Text.isOneLine_quote s
  | group mem => exact isOneLine_renderTokens (balanced_of_compile done mem).2

/-! ## Emitted code -/

theorem splitOn_of_isOneLine {s t : List Char} (hs : IsOneLine s) (ht : IsOneLine t) :
    (s ++ '\n' :: t).splitOn '\n' = [s, t] := by
  have first : ∀ c ∈ s, (c == '\n') = false := fun c hc =>
    beq_eq_false_iff_ne.2 (IsOneLine.iff_forall_mem.1 hs c hc).1
  have second : ∀ c ∈ t, (c == '\n') = false := fun c hc =>
    beq_eq_false_iff_ne.2 (IsOneLine.iff_forall_mem.1 ht c hc).1
  rw [List.splitOn, List.splitOnP_append_cons _ _ (by rfl), List.splitOnP_eq_singleton first,
    List.splitOnP_eq_singleton second]
  rfl

namespace Construction

/-- The lines of the code are a line that makes a scope, and one with the expression. -/
structure IsTwoLines (k : Construction) (names : RuntimeNames) : Prop where
  lines : k.source.toList.splitOn '\n' = [k.scope.toList, k.expression.toList]
  newlines : k.source.toList.count '\n' = 1
  noReturn : '\r' ∉ k.source.toList
  assigns : k.scope = names.scopeVariable ++ " = " ++ names.qualify "ScopeHolder" ++ "()"

/-- Emitted code is two lines, whatever line breaks the source has. -/
theorem isTwoLines_of_compile {registry : Registry} {config : Config} {file : Option String}
    {source : String} {c : Compilation} (feed : '\n' ∉ config.runtimeModule.toList)
    (carriage : '\r' ∉ config.runtimeModule.toList)
    (done : compile registry config file source = .ok (some c)) :
    c.construction.IsTwoLines (.ofConfig config) := by
  obtain ⟨names, scope, expression⟩ := composed_of_compile done
  have parts : ∀ p, c.tag.HasPart config.runtimeModule p → IsOneLine p := fun p hp =>
    hp.isOneLine done ⟨feed, carriage⟩
  have first : IsOneLine c.construction.scope.toList := .of_composed scope parts
  have second : IsOneLine c.construction.expression.toList := .of_composed expression parts
  have source : c.construction.source.toList =
      c.construction.scope.toList ++ '\n' :: c.construction.expression.toList := by
    simp [Construction.source, toString]
  refine ⟨?_, ?_, ?_, ?_⟩
  · rw [source, splitOn_of_isOneLine first second]
  · rw [source, List.count_append, List.count_cons_self, List.count_eq_zero_of_not_mem first.1,
      List.count_eq_zero_of_not_mem second.1]
  · simp [source, first.2, second.2]
  · rw [← names]
    rfl

/-! ### A tag with line breaks of all kinds -/

namespace Broken

def types : Registry := { types := [⟨"A", .component ⟨"AProps", [⟨"b", .mk "str" []⟩]⟩⟩] }

def source : String := "<A\r\n b=\x7b\"x\ny\" /*\n*/ z\r\n\"\r\n\" \x7d/>"

end Broken

/-- Line breaks in gaps, in a comment and in strings. -/
theorem isTwoLines_of_compile_broken :
    ∃ c, compile Broken.types .standard none Broken.source = .ok (some c) ∧
      c.construction.IsTwoLines (.ofConfig .standard) := by
  have compiles : (compile Broken.types .standard none Broken.source).toOption.join.any
      (fun _ => true) = true := by decide +kernel
  obtain ⟨c, done, -⟩ := exists_of_any_join compiles
  exact ⟨c, done, isTwoLines_of_compile (by decide) (by decide) done⟩

end Construction

end ComponentMarkup
