import ComponentMarkup.Proofs.Lexing.Names
import ComponentMarkup.Proofs.Parsing.Interiors
import ComponentMarkup.Proofs.Parsing.PathTexts
import ComponentMarkup.Proofs.Parsing.Readings
import ComponentMarkup.Proofs.Parsing.Relaid
import Mathlib.Tactic.TFAE

/-!
# Configured words

The delegate keyword and the reserved label of a configuration are words, but not every word is a
name. A word that is one can be written in markup; the keyword then makes a delegate and the label
is told of. Any other word has no effect.

## Main definitions

* `IsIdentifierText` — a text that is lexed to one identifier.
* `Config.AlwaysDelegates`, `Config.EverDelegates` — the keyword makes delegates.
* `Config.AlwaysReserves`, `Config.EverLabels` — the reserved label is told of, or met.

## Main statements

* `isName_iff_isWord` — which ASCII words are names.
* `isIdentifierText_iff` — the texts that are lexed to one identifier are the names.
* `Config.words_tfae` — what a configured word that is a name does, and no other.
-/

namespace ComponentMarkup

open Grammar

/-- The text is lexed to an identifier that is spelled like it, with nothing else. -/
def IsIdentifierText (s : String) : Prop :=
  ∀ file, ∃ x t, lex file s = .ok x ∧ x.tokens = [t] ∧ t.isIdentifier = true ∧ t.lexeme = s

/-! ## Words and names -/

/-- Classes that agree on every ASCII code point have the same ASCII characters. -/
theorem eq_of_ascii {p q : Char → Bool}
    (same : ∀ n : Fin 128, p (.ofNat n.val) = q (.ofNat n.val)) {c : Char}
    (ascii : c.toNat < 128) : p c = q c := by
  have at_c := same ⟨c.toNat, ascii⟩
  rwa [Char.ofNat_toNat] at at_c

/-- Among ASCII words, only the two of the booleans are not names. -/
theorem isName_iff_isWord {s : List Char} (ascii : ∀ c ∈ s, c.toNat < 128) :
    isName s = true ↔ Text.isWord s = true ∧ s ≠ "true".toList ∧ s ≠ "false".toList := by
  cases s with
  | nil => simp [isName, Text.isWord]
  | cons c cs =>
    obtain ⟨first, more⟩ := List.forall_mem_cons.1 ascii
    have start : isNameStart c = Text.isWordStart c := eq_of_ascii (by decide +kernel) first
    have part (d : Char) (hd : d ∈ cs) : isNamePart d = Text.isWordContinue d :=
      eq_of_ascii (by decide +kernel) (more d hd)
    have parts : cs.all isNamePart = cs.all Text.isWordContinue := by
      rw [Bool.eq_iff_iff, List.all_eq_true, List.all_eq_true]
      exact forall₂_congr fun d hd => by rw [part d hd]
    simp only [isName, Text.isWord, start, parts, Bool.and_eq_true, decide_eq_true_eq, and_assoc]

/-- In general, a word can have characters that no name has, here a middle dot. -/
example : Text.isWord "a·b".toList = true ∧ isName "a·b".toList = false := by decide +kernel

/-! ## Texts of names and marks -/

theorem stops_cons {c : Char} {rest : List Char} (other : isNamePart c = false) :
    Stops isNamePart (c :: rest) := by
  simpa [Stops] using other

def Token.ofName (s : String) : Token := ⟨.identifier, s, .start ""⟩

def Token.ofMark (m : Mark) : Token := ⟨.mark m, .singleton m.char, .start ""⟩

namespace Yields

variable {ts : List Token} {rest : List Char}

theorem ofName {s : String} (h : isName s.toList = true) (stops : Stops isNamePart rest)
    (behind : Yields rest ts) : Yields (s.toList ++ rest) (.ofName s :: ts) :=
  name (t := .ofName s) h rfl stops behind

theorem ofMark {m : Mark} (noSlash : m ≠ .slash) (behind : Yields rest ts) :
    Yields (m.char :: rest) (.ofMark m :: ts) := by
  have text := mark (t := .ofMark m) (decide_eq_true rfl) rfl noSlash behind
  simpa [Token.ofMark] using text

theorem blank (behind : Yields rest ts) : Yields (' ' :: rest) ts :=
  (gap_iff (g := [' ']) (.blank (by decide) .nil)).2 behind

theorem closing : Yields ['/', '>'] [.ofMark .slash, .ofMark .greaterThan] := by
  have slash : Piece.read '/' ['>'] = .ok (.token (.mark .slash) ['/'], ['>']) := by
    decide +kernel
  exact (token_iff slash).2 ⟨rfl, ofMark (m := .greaterThan) nofun .nil⟩

end Yields

theorem ofSource_of_lex {file source : String} {x : Lexing} (h : lex file source = .ok x) :
    Lexing.ofSource file source.toList = .ok x := by
  obtain ⟨ps, cut, -, rfl⟩ := lex_eq_ok_iff.1 h
  rw [Lexing.ofSource, cut]
  rfl

/-- What is lexed to an identifier is a name. -/
theorem isName_of_mem {file : String} {source : List Char} {x : Lexing} {t : Token}
    (cut : Lexing.ofSource file source = .ok x) (mem : t ∈ x.tokens)
    (identifier : t.isIdentifier = true) : isName t.lexeme.toList = true :=
  Token.isName_of_isSpelling (Lexing.isSpelling_of_ofSource cut t mem) identifier

theorem isIdentifierText_iff {s : String} : IsIdentifierText s ↔ isName s.toList = true := by
  constructor
  · intro h
    obtain ⟨x, t, lexed, tokens, identifier, rfl⟩ := h ""
    exact isName_of_mem (ofSource_of_lex lexed) (by simp [tokens]) identifier
  · intro h file
    have yields := Yields.ofName h (by simp [Stops] : Stops isNamePart []) .nil
    rw [List.append_nil] at yields
    obtain ⟨x, lexed, same⟩ := yields.exists_lex file
    obtain ⟨t, none, tokens, first, rest⟩ := same.cons_inv
    cases rest
    exact ⟨x, t, lexed, tokens, first.isIdentifier.trans rfl, first.lexeme⟩

namespace TagReader

variable {r : TagReader} {s : TokenStream}

/-- A tag that is read has an interior. -/
theorem sound {tag : ComponentTag}
    (h : (r.read s).1 = .ok tag) :
    ∃ opener slash closer inside rest, s.ahead = opener :: (inside ++ slash :: closer :: rest) ∧
      IsInterior r.config (opener.spanTo closer) inside tag := by
  cases run : (Parser.component r.config).run s with
  | error e s' =>
    rw [read_of_error run] at h
    cases h
  | ok found s' =>
    rw [read, run] at h
    cases h
    obtain ⟨opener, slash, closer, inside, inner, -, -, -, ahead, interior⟩ :=
      Parser.component_sound run
    exact ⟨opener, slash, closer, inside, s'.ahead, ahead, Parser.interior_sound interior⟩

/-- A tag of which a declaration is at fault is rejected for it. -/
theorem rejected_of_fault? {opener slash closer : Token} {path ts rest : List Token} {p : TypePath}
    {first : Property} {more : List Property} {e : ParseError}
    (ahead : s.ahead = opener :: (path ++ ts ++ slash :: closer :: rest))
    (opens : opener.isMark .lessThan = true) (isSlash : slash.isMark .slash = true)
    (isCloser : closer.isMark .greaterThan = true) (isPath : IsTypePath path p)
    (declarations : Repeated IsDeclaration ts (first :: more))
    (plain : first.label.isPlain = true) (notKeyword : first.key ≠ r.config.delegateKeyword)
    (fault : PropertyList.fault? r.config (first :: more) = some e) :
    (r.read s).1 = .error (Failure.atSlash slash (.rejected e)) := by
  have neutral : Neutral (path ++ ts) :=
    isPath.neutral.append (.of_repeated declarations IsDeclaration.neutral)
  obtain ⟨s', run⟩ : ∃ s', (Parser.interior r.config (opener.spanTo closer)).run
      ⟨path ++ ts, slash.start, [], []⟩ = .error (.rejected e) s' :=
    Parser.interior_of_fault? (by simp) isPath .absent declarations plain notKeyword fault
  rw [outcome_of_neutral neutral ahead opens isSlash isCloser, run]

end TagReader

/-! ## The delegate keyword -/

namespace Config

variable {c : Config}

/-- Between the type and a name, the keyword makes a delegate to that name. -/
def AlwaysDelegates (c : Config) : Prop :=
  ∀ (file type name : String), isName type.toList = true → isName name.toList = true →
    ∃ x tag d, lex file s!"< {type} {c.delegateKeyword} {name} />" = .ok x ∧
      ((TagReader.fresh c).read (.ofLexing x)).1 = .ok tag ∧
      tag.typePath.text = type ∧ tag.properties = some (.delegate d) ∧ d.name.lexeme = name

/-- Some tag in a source is read as a delegate. -/
def EverDelegates (c : Config) : Prop :=
  ∃ file source x s tag d, Lexing.ofSource file source = .ok x ∧ s.ahead ⊆ x.tokens ∧
    ((TagReader.fresh c).read s).1 = .ok tag ∧ tag.properties = some (.delegate d)

theorem yields_delegate {type keyword name : String} (isType : isName type.toList = true)
    (isKeyword : isName keyword.toList = true) (named : isName name.toList = true) :
    Yields (s!"< {type} {keyword} {name} />").toList
      [.ofMark .lessThan, .ofName type, .ofName keyword, .ofName name, .ofMark .slash,
        .ofMark .greaterThan] := by
  have last := Yields.ofName named (stops_cons (by decide)) (.blank .closing)
  have second := Yields.ofName isKeyword (stops_cons (by decide)) (.blank last)
  have first := Yields.ofName isType (stops_cons (by decide)) (.blank second)
  have tag := Yields.ofMark (m := .lessThan) nofun (.blank first)
  simpa [toString, Mark.char] using tag

theorem alwaysDelegates_of_isName (h : isName c.delegateKeyword.toList = true) :
    c.AlwaysDelegates := by
  intro file type name isType named
  obtain ⟨x, lexed, same⟩ := (yields_delegate isType h named).exists_lex file
  obtain ⟨opener, us, ahead, opens, same⟩ := same.cons_inv
  obtain ⟨t, us, rfl, types, same⟩ := same.cons_inv
  obtain ⟨k, us, rfl, delegates, same⟩ := same.cons_inv
  obtain ⟨n, us, rfl, names, same⟩ := same.cons_inv
  obtain ⟨slash, us, rfl, slashes, same⟩ := same.cons_inv
  obtain ⟨closer, us, rfl, closes, ⟨⟩⟩ := same.cons_inv
  have isType : t.isIdentifier = true := types.isIdentifier
  have isKeyword : k.isIdentifier = true := delegates.isIdentifier
  have isName : n.isIdentifier = true := names.isIdentifier
  have isPath : Grammar.IsTypePath [t] _ := .mk .absent isType .nil
  have isDelegate : Grammar.IsProperties c [k, n] _ :=
    .delegate isKeyword delegates.lexeme isName .absent
  have neutral : Neutral [t, k, n] := .single (.of_isIdentifier isType)
    (.single (.of_isIdentifier isKeyword) (.single (.of_isIdentifier isName) .nil))
  obtain ⟨s', run⟩ : ∃ s', (Parser.interior c (opener.spanTo closer)).run
      ⟨[t, k, n], slash.start, [], []⟩ = .ok _ s' :=
    Parser.interior_complete (.mk isPath .absent isDelegate)
  have read := TagReader.outcome_of_neutral (r := .fresh c) (s := .ofLexing x) neutral ahead
    (opens.isMark _) (slashes.isMark _) (closes.isMark _)
  rw [show (TagReader.fresh c).config = c from rfl, run] at read
  exact ⟨x, _, _, lexed, read, types.lexeme, rfl, names.lexeme⟩

theorem AlwaysDelegates.everDelegates (h : c.AlwaysDelegates) : c.EverDelegates := by
  obtain ⟨x, tag, d, lexed, read, -, isDelegate, -⟩ := h "" "A" "b" (by decide) (by decide)
  exact ⟨_, _, x, _, tag, d, ofSource_of_lex lexed, List.Subset.refl _, read, isDelegate⟩

theorem isName_of_everDelegates (h : c.EverDelegates) :
    isName c.delegateKeyword.toList = true := by
  obtain ⟨file, source, x, s, tag, d, cut, among, read, isDelegate⟩ := h
  obtain ⟨opener, slash, closer, inside, rest, ahead, isInterior⟩ := TagReader.sound read
  obtain @⟨path, colon, ts, p, spec, -, -, isProperties⟩ := isInterior
  cases isDelegate
  cases isProperties with
  | @delegate keyword name comma isKeyword same =>
    have mem : keyword ∈ x.tokens := among (by simp [ahead])
    exact same ▸ isName_of_mem cut mem isKeyword

/-! ## The reserved label -/

/-- Behind any property, a property of the reserved label is told of. -/
def AlwaysReserves (c : Config) : Prop :=
  ∀ (file type first value : String), isName type.toList = true → isName first.toList = true →
    isName value.toList = true → first ≠ c.delegateKeyword →
    ∃ x e t, lex file s!"< {type} {first}={value} {c.reservedLabel}={value} />" = .ok x ∧
      ((TagReader.fresh c).read (.ofLexing x)).1 = .error (.rejected e) ∧
      e.kind = .reservedLabel ∧ e.token = some t ∧ t ∈ x.tokens ∧ t.isIdentifier = true ∧
      t.lexeme = c.reservedLabel

/-- Some property in a source has the reserved label. -/
def EverLabels (c : Config) : Prop :=
  ∃ file source x s s' p, Lexing.ofSource file source = .ok x ∧ s.ahead ⊆ x.tokens ∧
    Parser.property.run s = .ok p s' ∧ p.key = c.reservedLabel

theorem yields_property {label value : String} {rest : List Char} {ts : List Token}
    (isLabel : isName label.toList = true) (isValue : isName value.toList = true)
    (stops : Stops isNamePart rest) (behind : Yields rest ts) :
    Yields (label.toList ++ '=' :: (value.toList ++ rest))
      (.ofName label :: .ofMark .assign :: .ofName value :: ts) :=
  .ofName isLabel (stops_cons (by decide))
    (.ofMark (m := .assign) nofun (.ofName isValue stops behind))

theorem yields_reserved {type first value label : String} (isType : isName type.toList = true)
    (isFirst : isName first.toList = true) (isValue : isName value.toList = true)
    (isLabel : isName label.toList = true) :
    Yields (s!"< {type} {first}={value} {label}={value} />").toList
      [.ofMark .lessThan, .ofName type, .ofName first, .ofMark .assign, .ofName value,
        .ofName label, .ofMark .assign, .ofName value, .ofMark .slash, .ofMark .greaterThan] := by
  have second := yields_property isLabel isValue (stops_cons (by decide)) (.blank .closing)
  have first := yields_property isFirst isValue (stops_cons (by decide)) (.blank second)
  have named := Yields.ofName isType (stops_cons (by decide)) (.blank first)
  have tag := Yields.ofMark (m := .lessThan) nofun (.blank named)
  simpa [toString, Mark.char] using tag

/-- A name with a name as its value is declared under the first one. -/
theorem exists_isDeclaration {name assign value : Token} (isName : name.isIdentifier = true)
    (isAssign : assign.isMark .assign = true) (isValue : value.isIdentifier = true) :
    ∃ p, IsDeclaration [name, assign, value] p ∧ p.label.isPlain = true ∧ p.label.name = name ∧
      p.key = name.lexeme :=
  ⟨_, .mk (.mk isName .nil) isAssign (.path (.mk .absent isValue .nil)) .absent, rfl, rfl, rfl⟩

/-- Of two plain declarations, the first one of the reserved label is at fault. -/
theorem exists_fault?_of_reserved {p q : Property} (plain : p.label.isPlain = true)
    (reserved : q.key = c.reservedLabel) :
    ∃ r ∈ [p, q], r.key = c.reservedLabel ∧ PropertyList.fault? c [p, q] =
      some (.reservedLabel r.label.name r.label.span c.reservedLabel) := by
  by_cases first : p.key = c.reservedLabel
  · refine ⟨p, List.mem_cons_self, first, ?_⟩
    rw [Property.key] at first
    simp [PropertyList.fault?, PropertyList.faultAfter?, first]
  · refine ⟨q, by simp, reserved, ?_⟩
    rw [Property.key] at first reserved
    simp [PropertyList.fault?, PropertyList.faultAfter?, first, reserved, plain]

theorem alwaysReserves_of_isName (h : isName c.reservedLabel.toList = true) :
    c.AlwaysReserves := by
  intro file type first value isType isFirst isValue notKeyword
  obtain ⟨x, lexed, same⟩ := (yields_reserved isType isFirst isValue h).exists_lex file
  obtain ⟨opener, us, ahead, opens, same⟩ := same.cons_inv
  obtain ⟨t, us, rfl, types, same⟩ := same.cons_inv
  obtain ⟨a, us, rfl, firsts, same⟩ := same.cons_inv
  obtain ⟨assign, us, rfl, assigns, same⟩ := same.cons_inv
  obtain ⟨v, us, rfl, values, same⟩ := same.cons_inv
  obtain ⟨b, us, rfl, labels, same⟩ := same.cons_inv
  obtain ⟨assign', us, rfl, assigns', same⟩ := same.cons_inv
  obtain ⟨v', us, rfl, values', same⟩ := same.cons_inv
  obtain ⟨slash, us, rfl, slashes, same⟩ := same.cons_inv
  obtain ⟨closer, us, rfl, closes, ⟨⟩⟩ := same.cons_inv
  have isType : t.isIdentifier = true := types.isIdentifier
  obtain ⟨p, isP, plain, nameP, keyP⟩ :=
    exists_isDeclaration firsts.isIdentifier (assigns.isMark _) values.isIdentifier
  obtain ⟨q, isQ, -, nameQ, keyQ⟩ :=
    exists_isDeclaration labels.isIdentifier (assigns'.isMark _) values'.isIdentifier
  have declarations : Repeated IsDeclaration [a, assign, v, b, assign', v'] [p, q] :=
    .cons isP (.cons isQ .nil)
  obtain ⟨r, mem, reserved, fault⟩ :=
    exists_fault?_of_reserved (c := c) plain (keyQ.trans labels.lexeme)
  have isPath : IsTypePath [t] _ := .mk .absent isType .nil
  have split : (TokenStream.ofLexing x).ahead =
      opener :: ([t] ++ [a, assign, v, b, assign', v'] ++ [slash, closer]) := ahead
  have read := TagReader.rejected_of_fault? (r := .fresh c) split
    (opens.isMark _) (slashes.isMark _) (closes.isMark _) isPath declarations plain
    (by rw [keyP, firsts.lexeme]; exact notKeyword) fault
  have named : r.label.name ∈ x.tokens ∧ r.label.name.isIdentifier = true ∧
      r.label.name.lexeme = r.key := by
    have tokens : x.tokens = [opener, t, a, assign, v, b, assign', v', slash, closer] := ahead
    rcases List.mem_pair.1 mem with rfl | rfl
    · exact ⟨by simp [tokens, nameP], nameP ▸ firsts.isIdentifier, by rw [nameP, keyP]⟩
    · exact ⟨by simp [tokens, nameQ], nameQ ▸ labels.isIdentifier, by rw [nameQ, keyQ]⟩
  exact ⟨x, _, r.label.name, lexed, read, rfl, rfl, named.1, named.2.1, named.2.2.trans reserved⟩

theorem isName_of_alwaysReserves (h : c.AlwaysReserves) :
    isName c.reservedLabel.toList = true := by
  obtain ⟨first, isFirst, other⟩ : ∃ first : String, isName first.toList = true ∧
      first ≠ c.delegateKeyword := by
    by_cases taken : c.delegateKeyword = "a"
    · exact ⟨"b", by decide, by simp [taken]⟩
    · exact ⟨"a", by decide, fun same => taken same.symm⟩
  obtain ⟨x, e, t, lexed, -, -, -, mem, identifier, same⟩ :=
    h "" "A" first "v" (by decide) isFirst (by decide) other
  exact same ▸ isName_of_mem (ofSource_of_lex lexed) mem identifier

theorem everLabels_of_isName (h : isName c.reservedLabel.toList = true) : c.EverLabels := by
  have yields : Yields (c.reservedLabel ++ "=v").toList
      [.ofName c.reservedLabel, .ofMark .assign, .ofName "v"] := by
    have value : isName "v".toList = true := by decide
    simpa using yields_property h value (by simp [Stops]) .nil
  obtain ⟨x, lexed, same⟩ := yields.exists_lex ""
  obtain ⟨b, us, ahead, labels, same⟩ := same.cons_inv
  obtain ⟨assign, us, rfl, assigns, same⟩ := same.cons_inv
  obtain ⟨v, us, rfl, values, ⟨⟩⟩ := same.cons_inv
  obtain ⟨p, isP, -, -, key⟩ :=
    exists_isDeclaration labels.isIdentifier (assigns.isMark _) values.isIdentifier
  obtain ⟨s', run, -⟩ := (Parser.property_whole_iff (s := .ofLexing x)).2
    (show IsDeclaration x.tokens p by rwa [ahead])
  exact ⟨_, _, x, _, s', p, ofSource_of_lex lexed, List.Subset.refl _, run,
    key.trans labels.lexeme⟩

/-- A word has no dash, so that only a plain label can be the reserved one. -/
theorem isName_of_everLabels (h : c.EverLabels) : isName c.reservedLabel.toList = true := by
  obtain ⟨file, source, x, s, s', p, cut, among, read, key⟩ := h
  obtain ⟨us, declaration, rfl⟩ := Parser.property_sound read
  obtain @⟨ls, ts, comma, label, assign, e, isLabel, -, -, -⟩ := declaration
  obtain @⟨ds, name, more, isName, -⟩ := isLabel
  have mem : name ∈ x.tokens := among (by simp)
  cases more with
  | nil =>
    have same : name.lexeme = c.reservedLabel := key
    exact same ▸ isName_of_mem cut mem isName
  | cons next more =>
    have dash : '-' ∈ c.reservedLabel.toList := by
      rw [← key, Property.key, Label.text, List.map_cons, String.intercalate_cons]
      simp [String.toList_join]
    have continues := Text.isWordContinue_of_isWord c.reservedLabel_isWord _ dash
    exact absurd continues (by decide +kernel)

/-! ## Configured words -/

/-- The keyword makes delegates, and the reserved label is told of, exactly if the word is a name.
Any other word, which no identifier is spelled like, has no effect at all. -/
theorem words_tfae (c : Config) :
    [isName c.delegateKeyword.toList = true, IsIdentifierText c.delegateKeyword,
      c.AlwaysDelegates, c.EverDelegates].TFAE ∧
    [isName c.reservedLabel.toList = true, IsIdentifierText c.reservedLabel,
      c.AlwaysReserves, c.EverLabels].TFAE := by
  constructor
  · tfae_have 1 ↔ 2 := isIdentifierText_iff.symm
    tfae_have 1 → 3 := alwaysDelegates_of_isName
    tfae_have 3 → 4 := AlwaysDelegates.everDelegates
    tfae_have 4 → 1 := isName_of_everDelegates
    tfae_finish
  · tfae_have 1 ↔ 2 := isIdentifierText_iff.symm
    tfae_have 1 → 3 := alwaysReserves_of_isName
    tfae_have 3 → 1 := isName_of_alwaysReserves
    tfae_have 1 → 4 := everLabels_of_isName
    tfae_have 4 → 1 := isName_of_everLabels
    tfae_finish

/-- The word `true` is accepted for both settings, and then there are neither delegates nor
properties of the reserved label. -/
theorem ofSettings_true :
    ∃ c, ofSettings { reservedLabel := some "true", delegateKeyword := some "true" } = .ok c ∧
      c.delegateKeyword = "true" ∧ c.reservedLabel = "true" ∧ ¬ IsIdentifierText "true" ∧
      ¬ c.EverDelegates ∧ ¬ c.EverLabels := by
  have word : Text.isWord "true".toList = true := by decide +kernel
  let c : Config := { standard with
    reservedLabel := "true"
    delegateKeyword := "true"
    reservedLabel_isWord := word
    delegateKeyword_isWord := word }
  have noName : isName "true".toList ≠ true := by decide
  refine ⟨c, ?_, rfl, rfl, fun h => noName (isIdentifierText_iff.1 h),
    fun h => noName (isName_of_everDelegates h), fun h => noName (isName_of_everLabels h)⟩
  simp only [ofSettings, with?, Option.getD_some, Option.getD_none, dif_pos word,
    dif_pos standard.scopeVariable_isWord]
  rfl

end Config

end ComponentMarkup
