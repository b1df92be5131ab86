import ComponentMarkup.Proofs.Emitted.Code
import ComponentMarkup.Proofs.Parsing.Groups

/-!
# Emitted code is closed

The tokens of a group are read as code again. Their brackets match there as well, but two things are
read in another way than as markup: the number sign starts a comment, and the empty string makes a
longer mark with an apostrophe that touches it. Code without these two is closed.

## Main definitions

* `Nests` — the closers that are due in front of tokens and behind them.
* `Token.RunsOn`, `IsTame` — tokens that are read as code in the way that they are read as markup.
* `Text.IsDotted` — words joined by points.

## Main statements

* `Code.flaw?_render` — a token is passed over as its kind asks for.
* `Code.passes_renderTokens` — a group of tame tokens is passed over.
* `Construction.isClosed_of_compile` — emitted code is closed if all groups are tame.
* `Construction.exists_flaw_of_compile` — and need not be closed otherwise.
-/

namespace ComponentMarkup

open RenderedPiece

/-- The closers that are due in front of tokens, the next one first, and those due behind them. -/
inductive Nests : List Char → List Token → List Char → Prop where
  | nil {due : List Char} : Nests due [] due
  | opener {due due' : List Char} {t : Token} {ts : List Token} {m : Mark} :
      t.opens? = some m → Nests (m.char :: due) ts due' → Nests due (t :: ts) due'
  | closer {due due' : List Char} {t : Token} {ts : List Token} {m : Mark} :
      t.closes? = some m → Nests due ts due' → Nests (m.char :: due) (t :: ts) due'
  | other {due due' : List Char} {t : Token} {ts : List Token} :
      t.opens? = none → t.closes? = none → Nests due ts due' → Nests due (t :: ts) due'

namespace Nests

variable {due mid due' : List Char} {t : Token} {ts us : List Token}

theorem append (h : Nests due ts mid) (h' : Nests mid us due') : Nests due (ts ++ us) due' := by
  induction h with
  | nil => exact h'
  | opener opens _ ih => exact .opener opens (ih h')
  | closer closes _ ih => exact .closer closes (ih h')
  | other opens closes _ ih => exact .other opens closes (ih h')

theorem of_balanced (h : Balanced ts) (due : List Char) : Nests due ts due := by
  induction h generalizing due with
  | nil => exact .nil
  | other opens closes _ ih => exact .other opens closes (ih due)
  | group opens _ closes _ ihInside ihBehind =>
    exact .opener opens ((ihInside _).append (.closer closes (ihBehind due)))

theorem eq_of_nil (h : Nests due [] due') : due = due' := by
  cases h
  rfl

/-- The first token has its effect in front of the others. -/
theorem uncons (h : Nests due (t :: ts) due') :
    ∃ mid, Nests due [t] mid ∧ Nests mid ts due' := by
  cases h with
  | opener opens behind => exact ⟨_, .opener opens .nil, behind⟩
  | closer closes behind => exact ⟨_, .closer closes .nil, behind⟩
  | other opens closes behind => exact ⟨_, .other opens closes .nil, behind⟩

/-- A mark that is no bracket leaves due what is due. -/
theorem of_isMark {m : Mark} (mark : t.isMark m = true) (opens : m.closer? = none)
    (closes : m.closes = false) (h : Nests due (t :: ts) due') : Nests due ts due' := by
  cases h with
  | opener opens' =>
    rw [Token.opens?_of_isMark mark, opens] at opens'
    cases opens'
  | closer closes' =>
    obtain ⟨same, closes'⟩ := Token.closes?_eq_some_iff.1 closes'
    rw [Token.isMark_iff.1 mark] at same
    cases same
    rw [closes] at closes'
    cases closes'
  | other _ _ behind => exact behind

end Nests

/-! ## Tame tokens -/

/-- A token that is written with an apostrophe in front touches the empty string `a`. -/
def Token.RunsOn (a b : Token) : Prop :=
  a.content = .string [] ∧ b.start.offset = a.stop.offset ∧ b.render.toList.head? = some '\''

instance (a b : Token) : Decidable (a.RunsOn b) := inferInstanceAs (Decidable (_ ∧ _ ∧ _))

/-- No token starts a comment or goes on with the marks of the one before. -/
structure IsTame (ts : List Token) : Prop where
  noSign : ∀ t ∈ ts, t.isMark .hash = false
  apart : ts.IsChain fun a b => ¬ a.RunsOn b

namespace IsTame

variable {t : Token} {ts : List Token}

instance (ts : List Token) : Decidable (IsTame ts) :=
  decidable_of_iff ((∀ t ∈ ts, t.isMark .hash = false) ∧ ts.IsChain fun a b => ¬ a.RunsOn b)
    ⟨fun ⟨noSign, apart⟩ => ⟨noSign, apart⟩, fun ⟨noSign, apart⟩ => ⟨noSign, apart⟩⟩

theorem tail (h : IsTame (t :: ts)) : IsTame ts :=
  ⟨fun u hu => h.noSign u (List.mem_cons_of_mem t hu), h.apart.of_cons⟩

end IsTame

namespace Token

variable {t : Token}

theorem render_ne_nil (spelled : IsSpelling t.content t.lexeme.toList) :
    t.render.toList ≠ [] := by
  unfold render
  split
  case h_1 => simp [Value.text, Text.quote]
  case h_2 b _ => cases b <;> decide
  case h_3 => exact spelled.ne_nil

end Token

/-! ## Reading tokens as code -/

namespace Code

variable {due due' rest : List Char} {t : Token} {ts : List Token}

/-- A mark that is no bracket and starts no comment is inert. -/
theorem Mark.inert_char {m : Mark} (opens : m.closer? = none) (closes : m.closes = false)
    (noSign : m ≠ .hash) : m.char ∉ telling := by
  cases m <;> first | decide | simp_all [Mark.closer?, Mark.closes]

/-- A token is passed over as its kind asks for: an opener makes its closer due, and a closer is the
one that is due. -/
theorem flaw?_render (nests : Nests due [t] due')
    (spelled : IsSpelling t.content t.lexeme.toList) (noSign : t.isMark .hash = false)
    (apart : t.content = .string [] → rest.head? ≠ some '\'') :
    flaw? due (t.render.toList ++ rest) = flaw? due' rest := by
  cases mark : t.mark? with
  | some m =>
    have isMark := Token.isMark_iff.2 mark
    have content : t.content = .mark m := by simpa [Token.isMark] using isMark
    rw [Token.render_of_mark spelled content]
    cases nests with
    | @opener _ _ _ _ d opens behind =>
      rw [Token.opens?_of_isMark isMark] at opens
      have closer : closer? m.char = some d.char := by cases m <;> cases opens <;> rfl
      rw [← behind.eq_of_nil]
      exact flaw?_opener closer
    | closer closes behind =>
      obtain ⟨same, closes⟩ := Token.closes?_eq_some_iff.1 closes
      rw [mark] at same
      cases same
      have closer : m.char ∈ closers := by cases m <;> first | decide | cases closes
      rw [← behind.eq_of_nil]
      exact flaw?_closer closer
    | other opens closes behind =>
      rw [← behind.eq_of_nil]
      rw [Token.opens?_of_isMark isMark] at opens
      have notCloser : m.closes = false := by simpa [Token.closes?, mark] using closes
      refine flaw?_inert (Mark.inert_char opens notCloser ?_)
      rintro rfl
      rw [isMark] at noSign
      cases noSign
  | none =>
    have noMark : ∀ m, t.content ≠ .mark m := by
      intro m content
      simp [Token.mark?, content] at mark
    have unchanged : due = due' := by
      cases nests with
      | opener opens => simp [Token.opens?, mark] at opens
      | closer closes => simp [Token.closes?, mark] at closes
      | other _ _ behind => exact behind.eq_of_nil
    subst unchanged
    by_cases isString : ∃ s, t.content = .string s
    · obtain ⟨s, string⟩ := isString
      rw [Token.render_of_string string]
      refine flaw?_literal (Text.Literal.split?_quote ?_)
      cases s with
      | nil => exact .inr (apart string)
      | cons => exact .inl (List.cons_ne_nil _ _)
    · have noString : ∀ s, t.content ≠ .string s := fun s string => isString ⟨s, string⟩
      exact flaw?_inert_append (Token.inert_render spelled noString noMark)

theorem inert_gap (touches : Prop) [Decidable touches] :
    Inert (if touches then "" else " ").toList := by
  split <;> decide

/-- Only a token that touches what stands in front of it is read on from there. -/
theorem head?_joinAfter {stop : Nat} (spelled : Spelled (t :: ts))
    (head : ((joinAfter stop (ofTokens (t :: ts))).toList ++ rest).head? = some '\'') :
    t.start.offset = stop ∧ t.render.toList.head? = some '\'' := by
  have first : ∃ p ps, ofTokens (t :: ts) = p :: ps ∧ p.start = t.start ∧
      (p.text = "." ∨ p.text = t.render) := by
    cases ts with
    | nil => exact ⟨_, _, rfl, rfl, .inr rfl⟩
    | cons u ts =>
      rw [ofTokens]
      split
      · exact ⟨_, _, rfl, rfl, .inl rfl⟩
      · exact ⟨_, _, rfl, rfl, .inr rfl⟩
  obtain ⟨p, ps, eq, start, text⟩ := first
  rw [eq, joinAfter, start] at head
  by_cases touches : t.start.offset = stop
  · refine ⟨touches, ?_⟩
    rcases text with point | render
    · simp [touches, point] at head
    · obtain ⟨c, cs, nonempty⟩ := List.exists_cons_of_ne_nil
        (Token.render_ne_nil (spelled t List.mem_cons_self))
      simpa [touches, render, nonempty] using head
  · simp [touches] at head

/-- Tokens are passed over one by one. The induction is along the pieces that they come to, two
colons in one, and looks one token ahead for the marks of the next literal. -/
theorem flaw?_joinAfter (spelled : Spelled ts) (tame : IsTame ts) (stop : Nat)
    (nests : Nests due ts due') (apart : rest.head? ≠ some '\'') :
    flaw? due ((joinAfter stop (ofTokens ts)).toList ++ rest) = flaw? due' rest := by
  fun_induction ofTokens ts generalizing due stop with
  | case1 a b ts both ih =>
    obtain ⟨first, second⟩ := Bool.and_eq_true_iff.1 both
    have behind := (nests.of_isMark first rfl rfl).of_isMark second rfl rfl
    have point : Inert ".".toList := by decide
    simp only [joinAfter, String.toList_append, List.append_assoc]
    rw [flaw?_inert_append (inert_gap _), flaw?_inert_append point]
    exact ih (spelled.of_subset (by simp)) tame.tail.tail _ behind
  | case2 a b ts single ih =>
    obtain ⟨mid, first, behind⟩ := nests.uncons
    have more : Spelled (b :: ts) := spelled.of_subset (List.subset_cons_self a _)
    simp only [joinAfter, String.toList_append, List.append_assoc]
    rw [flaw?_inert_append (inert_gap _), ← ih more tame.tail a.stop.offset behind]
    refine flaw?_render first (spelled a List.mem_cons_self) (tame.noSign a List.mem_cons_self) ?_
    intro empty head
    obtain ⟨touches, written⟩ := head?_joinAfter more head
    exact (List.isChain_cons_cons.1 tame.apart).1 ⟨empty, touches, written⟩
  | case3 a =>
    simp only [joinAfter, String.toList_append, List.append_assoc]
    rw [flaw?_inert_append (inert_gap _)]
    exact flaw?_render nests (spelled a List.mem_cons_self) (tame.noSign a List.mem_cons_self)
      fun _ => apart
  | case4 =>
    rw [nests.eq_of_nil]
    rfl

/-- A group of tame tokens is passed over. -/
theorem passes_renderTokens (balanced : Balanced ts) (spelled : Spelled ts) (tame : IsTame ts) :
    Passes (renderTokens ts).toList := by
  intro due rest apart
  rw [renderTokens, join_eq_joinAfter]
  exact flaw?_joinAfter spelled tame _ (.of_balanced balanced due) apart

end Code

/-! ## Constructions -/

/-- Words joined by points. No word at all makes the empty text. -/
def Text.IsDotted (s : List Char) : Prop :=
  ∃ words : List (List Char), (∀ w ∈ words, isWord w = true) ∧ s = ['.'].intercalate words

theorem Text.IsDotted.inert {s : List Char} (h : IsDotted s) : Inert s := by
  obtain ⟨words, areWords, rfl⟩ := h
  exact .intercalate (by decide) fun w hw => inert_of_isWord (areWords w hw)

namespace Construction

/-- Emitted code is closed if all groups of the tag are tame, and no group has an effect on how the
code behind it is read. -/
theorem isClosed_of_compile {registry : Registry} {config : Config} {file : Option String}
    {source : String} {c : Compilation} (dotted : Text.IsDotted config.runtimeModule.toList)
    (done : compile registry config file source = .ok (some c))
    (tame : ∀ ts ∈ c.tag.groups, IsTame ts) :
    Code.IsClosed c.construction.expression.toList ∧
      ∀ ts ∈ c.tag.groups, Code.Passes (renderTokens ts).toList := by
  have groups : ∀ ts ∈ c.tag.groups, Code.Passes (renderTokens ts).toList := by
    intro ts mem
    obtain ⟨balanced, spelled⟩ := balanced_of_compile done mem
    exact Code.passes_renderTokens balanced spelled (tame ts mem)
  obtain ⟨-, -, composed⟩ := composed_of_compile done
  refine ⟨(Code.passes_of_composed composed fun p hp => ?_).isClosed, groups⟩
  cases hp with
  | runtime => exact Code.passes_of_inert dotted.inert
  | string s => exact Code.passes_quote s
  | group mem => exact groups _ mem

/-! ### Strings and number signs in a block -/

namespace Quotes

def types : Registry := { types := [⟨"A", .component ⟨"AProps", [⟨"b", .mk "str" []⟩]⟩⟩] }

/-- Brackets, a number sign and marks of both kinds in strings; strings that touch each other; and
the empty string with a gap behind it, and at the end. -/
def tame : String := "<A b=\x7bf[\"(\"\"it's\\\"#\"] + \"\" \"a\"\"\"\x7d/>"

/-- A string right behind the empty string. -/
def touching : String := "<A b=\x7b\"\"\"a\"\x7d/>"

def sign : String := "<A b=\x7bx # y\x7d/>"

end Quotes

theorem isClosed_of_compile_tame :
    Text.IsDotted Config.standard.runtimeModule.toList ∧
      ∃ c, compile Quotes.types .standard none Quotes.tame = .ok (some c) ∧
        (∀ ts ∈ c.tag.groups, IsTame ts) ∧
        Code.IsClosed c.construction.expression.toList ∧
        ∀ ts ∈ c.tag.groups, Code.Passes (renderTokens ts).toList := by
  have dotted : Text.IsDotted Config.standard.runtimeModule.toList :=
    ⟨["vdom".toList], by decide +kernel, by decide⟩
  have compiles : (compile Quotes.types .standard none Quotes.tame).toOption.join.any
      (fun c => ∀ ts ∈ c.tag.groups, IsTame ts) = true := by decide +kernel
  obtain ⟨c, done, tame⟩ := exists_of_any_join compiles
  have tame : ∀ ts ∈ c.tag.groups, IsTame ts := of_decide_eq_true tame
  exact ⟨dotted, c, done, tame, isClosed_of_compile dotted done tame⟩

/-- A literal is left open behind an empty string that another one touches, and a comment starts at
a number sign. -/
theorem exists_flaw_of_compile :
    (∃ c, compile Quotes.types .standard none Quotes.touching = .ok (some c) ∧
      Code.flaw? [] c.construction.expression.toList = some .openLiteral) ∧
    ∃ c, compile Quotes.types .standard none Quotes.sign = .ok (some c) ∧
      Code.flaw? [] c.construction.expression.toList = some .comment := by
  have touching : (compile Quotes.types .standard none Quotes.touching).toOption.join.any
      (fun c => Code.flaw? [] c.construction.expression.toList = some .openLiteral) = true := by
    decide +kernel
  have sign : (compile Quotes.types .standard none Quotes.sign).toOption.join.any
      (fun c => Code.flaw? [] c.construction.expression.toList = some .comment) = true := by
    decide +kernel
  obtain ⟨c, done, opens⟩ := exists_of_any_join touching
  obtain ⟨c', done', comments⟩ := exists_of_any_join sign
  exact ⟨⟨c, done, of_decide_eq_true opens⟩, c', done', of_decide_eq_true comments⟩

end Construction

end ComponentMarkup
