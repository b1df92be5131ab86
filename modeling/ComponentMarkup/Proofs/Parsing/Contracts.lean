import ComponentMarkup.Proofs.Parsing.Labels

/-!
# Contracts of parsers

A parser takes single tokens that open no group, and groups as a whole. So what is known of the
tokens ahead stays known if it stays so behind either of them. And of brackets no failure tells but
that of a group; any other one is about a token, or about the end of the tokens.

## Main definitions

* `Failure.IsDelimiter` — a failure that tells of brackets.
* `ParseError.IsAbout` — an error at one of the tokens, or at their end.
* `Parser.Contract` — what is known of the tokens ahead, and of failures.
* `Parser.Keeps` — an outcome that agrees with a contract.

## Main statements

* `Parser.Keeps.bind`, `Parser.many_keeps` — parsers one after the other, and repetition.
* `Parser.expression_keeps`, `Parser.interior_keeps` — the parsers of an interior and its parts.
-/

namespace ComponentMarkup

open Lookahead

/-! ## Failures that tell of brackets -/

/-- A failure that is made where no group could be read, or that looks like one. -/
inductive Failure.IsDelimiter : Failure → Prop where
  | unclosed {e : ParseError} : e.kind = .unclosedDelimiter → IsDelimiter (.rejected e)
  | group (stop : Source.Location) (fault : GroupFault) (ts : List Token) :
      IsDelimiter (Parser.groupFailure stop fault ts)

/-- How closing brackets are called in errors. -/
def closerNames : List String :=
  [Mark.rightParen, .rightBracket, .rightBrace].map fun m => s!"`{m.char}`"

/-- What is called by the text of something is a closing bracket if it is spelled like one. -/
theorem mem_closerNames_iff {α : Type} [ToString α] {a : α} :
    s!"`{a}`" ∈ closerNames ↔ ∃ m : Mark, m.closes = true ∧ (toString a).toList = [m.char] := by
  have closers : ∀ m : Mark, m ∈ [Mark.rightParen, .rightBracket, .rightBrace] ↔
      m.closes = true := by
    intro m
    cases m <;> decide
  have quoted : ∀ m : Mark, s!"`{m.char}`" = s!"`{a}`" ↔ (toString a).toList = [m.char] := by
    intro m
    have chars : [m.char, '`'] = (toString a).toList ++ ['`'] ↔ (toString a).toList = [m.char] := by
      rw [← List.singleton_append, List.append_left_inj, eq_comm]
    rw [← String.toList_inj]
    simpa [toString] using chars
  simp only [closerNames, List.mem_map, closers, quoted]

theorem Mark.mem_closerNames_iff {m : Mark} : s!"`{m.char}`" ∈ closerNames ↔ m.closes = true := by
  rw [ComponentMarkup.mem_closerNames_iff]
  constructor
  · rintro ⟨n, closes, spelled⟩
    have same : m.char = n.char := by simpa [toString] using spelled
    have eq : m = n := by simpa [same] using (ofChar?_char m).symm
    rwa [eq]
  · intro closes
    exact ⟨m, closes, by simp [toString]⟩

theorem Mark.not_mem_closerNames {m : Mark} (h : m.closes = false) :
    (if s!"`{m.char}`".isEmpty then m.name else s!"`{m.char}`") ∉ closerNames := by
  have named : s!"`{m.char}`".isEmpty = false := by simp [toString]
  rw [named, if_neg Bool.false_ne_true, Mark.mem_closerNames_iff, h]
  exact Bool.false_ne_true

/-- What is called by a longer name is no closing bracket. -/
theorem not_mem_closerNames {expected : String} (h : expected.length ≠ 3) :
    expected ∉ closerNames := by
  intro mem
  obtain ⟨m, -, rfl⟩ := List.mem_map.1 mem
  have length : s!"`{m.char}`".length = "`".length + 1 + "`".length := by simp [toString]
  exact h length

/-- Only closing brackets are due. -/
theorem Group.closes_of_fault {due : List Mark} {ts : List Token} {d : Mark} {found : Token}
    (h : fault due ts = .mismatch d found) (closers : ∀ m ∈ due, m.closes = true) :
    d.closes = true := by
  induction ts generalizing due with
  | nil => cases h
  | cons t ts ih =>
    cases opens : t.opens? with
    | some m =>
      simp only [fault, opens] at h
      obtain ⟨o, -, pair⟩ := Option.bind_eq_some_iff.1 opens
      exact ih h (List.forall_mem_cons.2 ⟨Mark.closes_of_closer? pair, closers⟩)
    | none =>
      cases closes : t.closes? with
      | none =>
        simp only [fault, opens, closes] at h
        exact ih h closers
      | some m =>
        cases due with
        | nil =>
          simp only [fault, opens, closes] at h
          cases h
        | cons d' ds =>
          obtain ⟨first, rest⟩ := List.forall_mem_cons.1 closers
          by_cases same : m = d'
          · simp only [fault, opens, closes, same, if_true] at h
            exact ih h rest
          · simp only [fault, opens, closes, same, if_false] at h
            cases h
            exact first

theorem ParseError.expected_of_unexpectedToken {expected expected' : String} {t t' : Token}
    (h : unexpectedToken expected t = unexpectedToken expected' t') : expected = expected' := by
  have help := congrArg (·.diagnostic.help.map String.toList) h
  simpa [unexpectedToken, String.toList_inj, toString] using help

/-- Only errors of these kinds may tell of brackets. -/
def ParseErrorKind.mayTellOfBrackets : ParseErrorKind → Bool
  | unclosedDelimiter | unexpectedToken => true
  | _ => false

namespace Failure

variable {e : ParseError} {expected : String} {t : Token}

/-- An error that tells of brackets says so by its kind, or it says which bracket is due. -/
theorem IsDelimiter.cases_rejected (h : (rejected e).IsDelimiter) :
    e.kind = .unclosedDelimiter ∨
      ∃ (m : Mark) (found : Token),
        m.closes = true ∧ e = .unexpectedToken s!"`{m.char}`" found := by
  generalize hf : rejected e = f at h
  cases h with
  | unclosed kind =>
    cases hf
    exact .inl kind
  | group stop fault ts =>
    unfold Parser.groupFailure at hf
    split at hf
    · cases hf
    · cases hf
    · split at hf
      case h_1 due found eq =>
        cases hf
        exact .inr ⟨due, found, Group.closes_of_fault eq (List.forall_mem_nil _), rfl⟩
      case h_2 => cases hf
      all_goals
        cases hf
        exact .inl rfl

theorem not_isDelimiter_of_kind (h : e.kind.mayTellOfBrackets = false) :
    ¬ (rejected e).IsDelimiter := by
  intro delimiter
  rcases delimiter.cases_rejected with kind | ⟨m, found, -, rfl⟩
  · rw [kind] at h
    cases h
  · cases h

theorem not_isDelimiter_unexpectedToken (h : expected ∉ closerNames) :
    ¬ (rejected (.unexpectedToken expected t)).IsDelimiter := by
  intro delimiter
  rcases delimiter.cases_rejected with kind | ⟨m, found, closes, eq⟩
  · cases kind
  · rw [ParseError.expected_of_unexpectedToken eq] at h
    exact h (Mark.mem_closerNames_iff.2 closes)

theorem not_isDelimiter_trailingToken : ¬ (rejected (.trailingToken t)).IsDelimiter := by
  intro delimiter
  rcases delimiter.cases_rejected with kind | ⟨m, found, -, eq⟩
  · cases kind
  · have help := congrArg (·.diagnostic.help.map fun s => s.toList.head?) eq
    simp [ParseError.trailingToken, ParseError.unexpectedToken, toString] at help

end Failure

/-- The keyword of a configuration is no bracket. -/
theorem Config.keyword_not_mem_closerNames (config : Config) :
    s!"`{config.delegateKeyword}`" ∉ closerNames := by
  rw [mem_closerNames_iff]
  rintro ⟨m, -, spelled⟩
  have noWord : ∀ m : Mark, Text.isWord [m.char] = false := by intro m; cases m <;> decide
  have isWord : Text.isWord (toString config.delegateKeyword).toList = true :=
    config.delegateKeyword_isWord
  rw [spelled, noWord m] at isWord
  cases isWord

/-! ## Errors and the tokens that they are about -/

/-- An error at the end of the tokens, or at the start of one of them, which it names. -/
inductive ParseError.IsAbout (ts : List Token) : ParseError → Prop where
  | atEnd (expected : String) (l : Source.Location) : IsAbout ts (.unexpectedEnd expected l)
  | token {e : ParseError} {t : Token} : e.kind ≠ .unexpectedEnd → t ∈ ts → e.token = some t →
      e.location = t.start → IsAbout ts e

namespace ParseError

variable {e : ParseError} {ts us : List Token} {t : Token}

theorem IsAbout.of_subset (h : e.IsAbout ts) (subset : ts ⊆ us) : e.IsAbout us := by
  cases h with
  | atEnd expected l => exact .atEnd expected l
  | token kind mem names at_t => exact .token kind (subset mem) names at_t

theorem isAbout_unexpectedToken (expected : String) (h : t ∈ ts.head?) :
    (unexpectedToken expected t).IsAbout ts :=
  .token nofun (List.mem_of_mem_head? h) rfl rfl

end ParseError

/-! ## Contracts -/

theorem Token.opens?_of_isIdentifier {t : Token} (h : t.isIdentifier = true) : t.opens? = none := by
  rw [opens?, mark?, of_decide_eq_true h]
  rfl

/-- What holds a value is no mark. -/
theorem Token.mark?_of_literal? {t : Token} {value : Value}
    (h : t.content.literal? = some value) : t.mark? = none := by
  rw [mark?]
  split
  case h_1 content =>
    rw [content] at h
    cases h
  case h_2 => rfl

theorem Token.opens?_of_literal? {t : Token} {value : Value}
    (h : t.content.literal? = some value) : t.opens? = none := by
  rw [opens?, mark?_of_literal? h]
  rfl

namespace Parser

/-- What is known of the tokens ahead, and of failures. -/
structure Contract where
  ahead : List Token → Prop
  failure : Failure → Prop
  behind {t : Token} {ts : List Token} : t.opens? = none → ahead (t :: ts) → ahead ts
  rejects {ts : List Token} {e : ParseError} : ahead ts → e.IsAbout ts →
    ¬ (Failure.rejected e).IsDelimiter → failure (.rejected e)
  /-- Reading a group that a bracket opens. -/
  group {s s' : TokenStream} {g : Group} : ahead s.ahead →
    s.ahead.head?.any (·.opens?.isSome) = true → group.run s = .ok g s' → ahead s'.ahead
  noGroup {s s' : TokenStream} {e : Failure} : ahead s.ahead →
    s.ahead.head?.any (·.opens?.isSome) = true → Parser.group.run s = .error e s' → failure e

variable {α β : Type} {s s' : TokenStream} {c : Contract}

/-- What is known holds of the tokens left, or of the failure. -/
inductive Keeps (c : Contract) : EStateM.Result Failure TokenStream α → Prop
  | ok {a : α} {s : TokenStream} : c.ahead s.ahead → Keeps c (.ok a s)
  | error {e : Failure} {s : TokenStream} : c.failure e → Keeps c (.error e s)

theorem Keeps.bind {p : Parser α} {f : α → Parser β} (hp : Keeps c (p.run s))
    (hf : ∀ a s', p.run s = .ok a s' → c.ahead s'.ahead → Keeps c ((f a).run s')) :
    Keeps c ((p >>= f).run s) := by
  rw [run_bind]
  generalize p.run s = r at hp hf
  cases hp with
  | ok holds => exact hf _ _ rfl holds
  | error fails => exact .error fails

theorem Keeps.ahead_of_ok {p : Parser α} {a : α} (h : Keeps c (p.run s))
    (run : p.run s = .ok a s') : c.ahead s'.ahead := by
  rw [run] at h
  cases h with
  | ok holds => exact holds

theorem Keeps.rejected {e : ParseError} {ts : List Token} (holds : c.ahead ts)
    (about : e.IsAbout ts) (other : ¬ (Failure.rejected e).IsDelimiter) :
    Keeps c (.error (.rejected e) s : EStateM.Result Failure TokenStream α) :=
  .error (c.rejects holds about other)

theorem Contract.behind_of_isIdentifier {t : Token} {ts : List Token}
    (h : t.isIdentifier = true) (holds : c.ahead (t :: ts)) : c.ahead ts :=
  c.behind (Token.opens?_of_isIdentifier h) holds

theorem Contract.behind_of_isMark {t : Token} {m : Mark} {ts : List Token}
    (h : t.isMark m = true) (plain : m.closer? = none) (holds : c.ahead (t :: ts)) : c.ahead ts :=
  c.behind ((Token.opens?_of_isMark h).trans plain) holds

/-! ## Single tokens and repetition -/

theorem unexpectedEnd_keeps {expected : String} (holds : c.ahead s.ahead) :
    Keeps c ((unexpectedEnd expected : Parser α).run s) :=
  .rejected holds (.atEnd expected s.location) (Failure.not_isDelimiter_of_kind rfl)

theorem unexpectedToken_keeps {expected : String} {t : Token} (holds : c.ahead s.ahead)
    (found : t ∈ s.ahead.head?) (named : expected ∉ closerNames) :
    Keeps c ((reject (.unexpectedToken expected t) : Parser α).run s) :=
  .rejected holds (ParseError.isAbout_unexpectedToken expected found)
    (Failure.not_isDelimiter_unexpectedToken named)

theorem advance_keeps (holds : c.ahead s.ahead) (plain : ∀ t ∈ s.ahead.head?, t.opens? = none) :
    Keeps c (advance.run s) := by
  rcases s with ⟨_ | ⟨t, ts⟩, stop, warnings, journal⟩
  · exact unexpectedEnd_keeps holds
  · exact .ok (c.behind (plain t rfl) holds)

theorem not_isDelimiter_of_consume {kind : TokenKind} {expected : String} {e : Failure}
    (named : (if expected.isEmpty then kind.name else expected) ∉ closerNames)
    (run : (consume kind expected).run s = .error e s') : ¬ e.IsDelimiter := by
  rw [consume, run_bind_of_ok run_peek] at run
  split at run
  case h_1 =>
    cases run
    exact Failure.not_isDelimiter_of_kind rfl
  case h_2 t ahead =>
    split at run
    case isTrue =>
      rcases s with ⟨_ | ⟨u, us⟩, stop, warnings, journal⟩
      · cases ahead
      · cases run
    case isFalse =>
      cases run
      exact Failure.not_isDelimiter_unexpectedToken named

theorem consume_keeps {kind : TokenKind} {expected : String} (holds : c.ahead s.ahead)
    (plain : ∀ t : Token, t.kind = kind → t.opens? = none)
    (named : (if expected.isEmpty then kind.name else expected) ∉ closerNames) :
    Keeps c ((consume kind expected).run s) := by
  rw [consume, run_bind_of_ok run_peek]
  split
  case h_1 => exact unexpectedEnd_keeps holds
  case h_2 t ahead =>
    split
    case isTrue same =>
      refine advance_keeps holds fun u hu => ?_
      cases ahead.symm.trans hu
      exact plain t same
    case isFalse => exact unexpectedToken_keeps holds ahead named

theorem consume_mark_keeps {m : Mark} {expected : String} (holds : c.ahead s.ahead)
    (plain : m.closer? = none)
    (named : (if expected.isEmpty then m.name else expected) ∉ closerNames) :
    Keeps c ((consume (.mark m) expected).run s) :=
  consume_keeps holds (fun _ is => (Token.opens?_of_isMark (Token.kind_eq_mark.1 is)).trans plain)
    named

theorem mark_keeps {m : Mark} (holds : c.ahead s.ahead) (plain : m.closer? = none)
    (closes : m.closes = false) : Keeps c ((mark m).run s) :=
  consume_mark_keeps holds plain (Mark.not_mem_closerNames closes)

theorem identifier_keeps {expected : String} (holds : c.ahead s.ahead)
    (named : expected ∉ closerNames) : Keeps c ((identifier expected).run s) := by
  refine consume_keeps holds (fun t is => ?_) ?_
  · exact Token.opens?_of_isIdentifier (Token.kind_eq_identifier.1 is)
  · split
    · exact not_mem_closerNames (by decide)
    · exact named

theorem accept_keeps {m : Mark} (holds : c.ahead s.ahead) (plain : m.closer? = none) :
    Keeps c ((accept (.mark m)).run s) := by
  rw [accept, run_bind_of_ok (run_check _)]
  split
  case isTrue is =>
    refine (advance_keeps holds fun t ht => ?_).bind fun _ _ _ holds => .ok holds
    have isMark : t.isMark m = true := by
      simpa [Option.mem_def.1 ht, Token.kind_eq_mark] using is
    exact (Token.opens?_of_isMark isMark).trans plain
  case isFalse => exact .ok holds

theorem group_keeps {m : Mark} (holds : c.ahead s.ahead)
    (opens : s.ahead.head?.any (·.isMark m) = true) (opener : m.closer?.isSome = true) :
    Keeps c (group.run s) := by
  have starts : s.ahead.head?.any (·.opens?.isSome) = true := by
    cases ahead : s.ahead.head? with
    | none => simp [ahead] at opens
    | some t =>
      have isMark : t.isMark m = true := by simpa [ahead] using opens
      simpa [Token.opens?_of_isMark isMark] using opener
  cases run : group.run s with
  | ok g s' => exact .ok (c.group holds starts run)
  | error e s' => exact .error (c.noGroup holds starts run)

theorem many_keeps {p : Parser (Option α)} (h : ∀ s, c.ahead s.ahead → Keeps c (p.run s))
    (s : TokenStream) (holds : c.ahead s.ahead) : Keeps c (EStateM.run (many p) s) := by
  change Keeps c (many p s)
  have first := h s holds
  fun_induction many p s with
  | case1 s s' hp =>
    rw [hp] at first
    cases first with
    | ok holds => exact .ok holds
  | case2 s e s' hp =>
    rw [hp] at first
    cases first with
    | error fails => exact .error fails
  | case3 s a rest hp _ more s' hmore ih =>
    rw [hp] at first
    cases first with
    | ok left =>
      have := ih left (h rest left)
      rw [hmore] at this
      cases this with
      | ok holds => exact .ok holds
  | case4 s a rest hp _ e s' hmore ih =>
    rw [hp] at first
    cases first with
    | ok left =>
      have := ih left (h rest left)
      rw [hmore] at this
      cases this with
      | error fails => exact .error fails
  | case5 s a rest hp =>
    rw [hp] at first
    cases first with
    | ok holds => exact .ok holds

/-! ## Paths and expressions -/

theorem behind_doubleColon {ts : List Token} (holds : c.ahead s.ahead)
    (h : doubleColon? s.ahead = some ts) : c.ahead ts := by
  obtain ⟨a, b, ahead, isA, isB⟩ := doubleColon?_eq_some_iff.1 h
  rw [ahead] at holds
  exact c.behind_of_isMark isB rfl (c.behind_of_isMark isA rfl holds)

theorem doubleColon_keeps (holds : c.ahead s.ahead) : Keeps c (doubleColon.run s) := by
  rw [doubleColon, run_bind_of_ok run_ahead]
  split
  case h_1 rest found => exact .ok (behind_doubleColon holds found)
  case h_2 => exact .ok holds

theorem typeSegment_keeps (s : TokenStream) (holds : c.ahead s.ahead) :
    Keeps c (typeSegment.run s) := by
  refine (doubleColon_keeps holds).bind fun leading s' _ holds => ?_
  split
  case isTrue =>
    exact (identifier_keeps holds (not_mem_closerNames (by decide))).bind fun _ _ _ holds =>
      .ok holds
  case isFalse => exact .ok holds

theorem typePath_keeps (holds : c.ahead s.ahead) : Keeps c (typePath.run s) := by
  rw [typePath, run_bind_of_ok run_peek]
  refine (doubleColon_keeps holds).bind fun _ _ _ holds => ?_
  refine (identifier_keeps holds (not_mem_closerNames (by decide))).bind fun _ _ _ holds => ?_
  exact (many_keeps typeSegment_keeps _ holds).bind fun _ _ _ holds => .ok holds

theorem pathSegment_keeps (s : TokenStream) (holds : c.ahead s.ahead) :
    Keeps c (pathSegment.run s) := by
  have name : "identifier" ∉ closerNames := not_mem_closerNames (by decide)
  rcases endsPath_or s with ends | ⟨point, rest, isPoint, rfl⟩ | ⟨a, b, rest, isA, isB, rfl⟩
  · rw [run_pathSegment_of_endsPath ends]
    exact .ok holds
  · rw [run_pathSegment_dot isPoint]
    have left := c.behind_of_isMark isPoint rfl holds
    exact (identifier_keeps left name).bind fun _ _ _ holds => .ok holds
  · rw [run_pathSegment_colons isA isB]
    have left := c.behind_of_isMark isB rfl (c.behind_of_isMark isA rfl holds)
    exact (identifier_keeps left name).bind fun _ _ _ holds => .ok holds

theorem leadingColons_keeps (holds : c.ahead s.ahead) : Keeps c (leadingColons.run s) := by
  have name : (if "`::`".isEmpty then Mark.colon.name else "`::`") ∉ closerNames :=
    not_mem_closerNames (by decide)
  rw [leadingColons, run_bind_of_ok (run_check _)]
  split
  case isTrue =>
    exact (consume_mark_keeps holds rfl name).bind fun _ _ _ holds =>
      (consume_mark_keeps holds rfl name).bind fun _ _ _ holds => .ok holds
  case isFalse => exact .ok holds

theorem valuePath_keeps {start : Token} (holds : c.ahead s.ahead) :
    Keeps c ((valuePath start).run s) := by
  refine (leadingColons_keeps holds).bind fun _ _ _ holds => ?_
  refine (identifier_keeps holds (not_mem_closerNames (by decide))).bind fun _ _ _ holds => ?_
  exact (many_keeps pathSegment_keeps _ holds).bind fun _ _ _ holds => .ok holds

theorem pathOrCall_keeps {start : Token} (holds : c.ahead s.ahead) :
    Keeps c ((pathOrCall start).run s) := by
  refine (valuePath_keeps holds).bind fun path s' _ holds => ?_
  rw [run_bind_of_ok (run_check _)]
  split
  case isTrue calls =>
    simp only [Token.kind_eq_mark, Bool.decide_eq_true] at calls
    exact (group_keeps holds calls rfl).bind fun _ _ _ holds => .ok holds
  case isFalse => exact .ok holds

theorem negativeNumber_keeps (holds : c.ahead s.ahead)
    (starts : s.ahead.head?.any (·.isMark .minus) = true) : Keeps c (negativeNumber.run s) := by
  have number : "number" ∉ closerNames := not_mem_closerNames (by decide)
  have plain : ∀ t ∈ s.ahead.head?, t.opens? = none := fun t ht =>
    Token.opens?_of_isMark (m := .minus) (by simpa [Option.mem_def.1 ht] using starts)
  refine (advance_keeps holds plain).bind fun _ s' _ holds => ?_
  rw [run_bind_of_ok run_peek]
  split
  case h_1 => exact unexpectedEnd_keeps holds
  case h_2 t ahead =>
    split
    case h_1 => exact unexpectedToken_keeps holds ahead number
    case h_2 value negated =>
      refine (advance_keeps holds fun u hu => ?_).bind fun _ _ _ holds => .ok holds
      cases ahead.symm.trans hu
      cases content : t.content with
      | integer | float => simp [Token.opens?, Token.mark?, content]
      | _ =>
        rw [content] at negated
        cases negated

theorem expression_keeps (holds : c.ahead s.ahead) : Keeps c (expression.run s) := by
  have name : "expression" ∉ closerNames := not_mem_closerNames (by decide)
  rw [expression, run_bind_of_ok run_peek]
  split
  case h_1 => exact unexpectedEnd_keeps holds
  case h_2 t ahead =>
    split
    case h_1 value literal =>
      refine (advance_keeps holds fun u hu => ?_).bind fun _ _ _ holds => .ok holds
      cases ahead.symm.trans hu
      exact Token.opens?_of_literal? literal
    case h_2 =>
      split
      case isTrue isMinus => exact negativeNumber_keeps holds (by simp [ahead, isMinus])
      split
      case isTrue isBrace =>
        exact (group_keeps (m := .leftBrace) holds (by simp [ahead, isBrace]) rfl).bind
          fun _ _ _ holds => .ok holds
      split
      case isTrue => exact pathOrCall_keeps holds
      case isFalse => exact unexpectedToken_keeps holds ahead name

/-! ## Properties and interiors -/

theorem behind_extensions {ts us names : List Token}
    (h : Grammar.Repeated Grammar.IsExtension ts names) (holds : c.ahead (ts ++ us)) :
    c.ahead us := by
  induction h with
  | nil => exact holds
  | cons first _ ih =>
    cases first with
    | dash isDash isName =>
      exact ih (c.behind_of_isIdentifier isName (c.behind_of_isMark isDash rfl holds))

theorem label_keeps (holds : c.ahead s.ahead) : Keeps c (label.run s) := by
  have name : "property name" ∉ closerNames := not_mem_closerNames (by decide)
  cases run : label.run s with
  | ok l s' =>
    obtain ⟨ts, isLabel, rfl⟩ := label_sound run
    cases isLabel with
    | mk isName repeated =>
      exact .ok (behind_extensions repeated (c.behind_of_isIdentifier isName holds))
  | error e s' =>
    rw [← run]
    rw [label, run_bind_of_ok run_ahead] at run ⊢
    split at run
    case h_1 => cases run
    case h_2 =>
      simp only [run_bind_of_ok run_peek]
      split
      case h_1 => exact unexpectedEnd_keeps holds
      case h_2 t ahead => exact unexpectedToken_keeps holds ahead name

theorem nextProperty_keeps (s : TokenStream) (holds : c.ahead s.ahead) :
    Keeps c (nextProperty.run s) := by
  rw [nextProperty, run_bind_of_ok run_ahead]
  split
  case isTrue =>
    refine Keeps.bind ?_ fun _ _ _ holds => .ok holds
    refine (label_keeps holds).bind fun _ _ _ holds => ?_
    refine (mark_keeps holds rfl rfl).bind fun _ _ _ holds => ?_
    refine (expression_keeps holds).bind fun _ _ _ holds => ?_
    exact (accept_keeps holds rfl).bind fun _ _ _ holds => .ok holds
  case isFalse => exact .ok holds

/-- A declaration at fault is told of at its name, and no bracket is told of. -/
theorem isAbout_of_fault? {config : Config} {ps : List Property} {e : ParseError}
    (reads : ReadsDeclarations s ps s') (h : PropertyList.fault? config ps = some e) :
    e.IsAbout s.ahead ∧ ¬ (Failure.rejected e).IsDelimiter := by
  obtain ⟨before, p, behind, rfl, -, fault⟩ := PropertyList.exists_of_fault? h
  obtain ⟨mem, start⟩ := reads.name_mem p (by simp)
  cases fault <;> exact ⟨.token nofun mem rfl start, Failure.not_isDelimiter_of_kind rfl⟩

theorem propertyList_keeps {config : Config} (holds : c.ahead s.ahead) :
    Keeps c ((propertyList config).run s) := by
  rw [propertyList, run_bind_of_ok run_location]
  refine (many_keeps nextProperty_keeps s holds).bind fun declared s' reads left => ?_
  split
  case h_1 e fault =>
    obtain ⟨about, other⟩ := isAbout_of_fault? (many_nextProperty_iff.1 reads) fault
    exact .rejected holds about other
  case h_2 => exact .ok left

theorem delegate_keeps {config : Config} (holds : c.ahead s.ahead) :
    Keeps c ((delegate config).run s) := by
  refine (identifier_keeps holds config.keyword_not_mem_closerNames).bind
    fun keyword s' run left => ?_
  split
  case isTrue =>
    obtain ⟨-, rfl⟩ := identifier_eq_ok_iff.1 run
    exact .rejected holds (.token nofun (by simp) rfl rfl) (Failure.not_isDelimiter_of_kind rfl)
  case isFalse =>
    refine (identifier_keeps left (not_mem_closerNames (by decide))).bind fun _ _ _ holds => ?_
    exact (accept_keeps holds rfl).bind fun _ _ _ holds => .ok holds

theorem propertySpec_keeps {config : Config} (holds : c.ahead s.ahead) :
    Keeps c ((propertySpec config).run s) := by
  rw [propertySpec, run_bind_of_ok run_ahead]
  split
  case h_1 => exact .ok holds
  case h_2 => exact (propertyList_keeps holds).bind fun _ _ _ holds => .ok holds
  case h_3 => exact (delegate_keeps holds).bind fun _ _ _ holds => .ok holds

theorem interior_keeps {config : Config} {span : Source.Span} (holds : c.ahead s.ahead) :
    Keeps c ((interior config span).run s) := by
  refine (typePath_keeps holds).bind fun _ _ _ holds => ?_
  refine (accept_keeps holds rfl).bind fun _ _ _ holds => ?_
  refine (propertySpec_keeps holds).bind fun _ _ _ holds => ?_
  rw [run_bind_of_ok run_peek]
  split
  case h_1 t ahead =>
    exact .rejected holds (.token nofun (List.mem_of_mem_head? ahead) rfl rfl)
      Failure.not_isDelimiter_trailingToken
  case h_2 => exact .ok holds

end Parser

end ComponentMarkup
