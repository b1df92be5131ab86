import ComponentMarkup.Proofs.Emitted.Inert
import ComponentMarkup.Proofs.Lexing.Names
import ComponentMarkup.Proofs.Parsing.Expressions
import ComponentMarkup.Proofs.Parsing.PathTexts
import ComponentMarkup.Proofs.Parsing.Relaid

/-!
# Paths in texts

The text of a path is read as that path again. In emitted code its segments are joined by points.

## Main definitions

* `TypePath.asValuePath` — a type path where a value is expected.
* `ValuePath.IsReread`, `TypePath.IsReread` — the text of a path is read as the path, and written
  segment by segment.

## Main statements

* `Grammar.IsValuePath.yields` — the tokens of a path's text are those of the path.
* `ValuePath.dotted_text` — a path in emitted code.
* `isReread_of_paths` — all paths that are read from a source are reread.
-/

namespace ComponentMarkup

open Grammar

/-- The texts of tokens, one behind the other. -/
def lexemes (ts : List Token) : List Char := ts.flatMap fun t => t.lexeme.toList

namespace Spelled

variable {t : Token} {ts : List Token}

theorem isName (h : Spelled ts) (mem : t ∈ ts) (identifier : t.isIdentifier = true) :
    isName t.lexeme.toList = true := Token.isName_of_isSpelling (h t mem) identifier

theorem lexeme_eq {m : Mark} (h : Spelled ts) (mem : t ∈ ts) (isMark : t.isMark m = true) :
    t.lexeme = .singleton m.char := by
  have spelling := h t mem
  rw [of_decide_eq_true isMark] at spelling
  exact String.toList_inj.1 (by simpa using spelling.eq_of_mark)

theorem marksSpelled (h : Spelled ts) : MarksSpelled ts :=
  fun _ mem _ mark => h.lexeme_eq mem (Token.isMark_iff.2 mark)

end Spelled

/-! ## Type paths as value paths -/

namespace TypePath

def asValuePath (p : TypePath) : ValuePath where
  leadingColons := p.leadingColons
  first := p.first.lexeme
  more := p.more.map fun name => (.colons, name.lexeme)
  span := p.span

theorem segments_asValuePath (p : TypePath) : p.asValuePath.segments = p.segments := by
  simp [asValuePath, ValuePath.segments, segments, names]

theorem text_asValuePath (p : TypePath) : p.asValuePath.text = p.text := by
  unfold ValuePath.text text
  simp only [asValuePath, segments, names, List.map_cons, String.intercalate_cons, List.map_map,
    String.append_assoc]
  rfl

end TypePath

namespace Grammar

variable {ts us : List Token}

theorem IsTypePath.isValuePath {p : TypePath} (h : IsTypePath ts p) :
    IsValuePath ts p.asValuePath := by
  obtain @⟨colons, us, leading, first, more, leads, isFirst, repeated⟩ := h
  have segments : Repeated IsPathSegment us (more.map fun name => (.colons, name)) := by
    induction repeated with
    | nil => exact .nil
    | cons segment _ ih =>
      cases segment with
      | colons a b name => exact .cons (.colons a b name) ih
  have path := IsValuePath.mk leads isFirst segments
  simp only [List.map_map, List.getLast?_map, Option.map_map, Function.comp_def, Option.map_id']
    at path
  exact path

theorem IsPathSegment.yields {segment : Separator × Token} {rest : List Char}
    (h : IsPathSegment us segment) (spelled : Spelled us) (stops : Stops isNamePart rest)
    (behind : Yields rest ts) : Yields (lexemes us ++ rest) (us ++ ts) := by
  cases h with
  | @colons a b name isA isB isName =>
    have third := Yields.name (spelled.isName (by simp) isName) isName stops behind
    have second := Yields.mark isB (spelled.lexeme_eq (by simp) isB) nofun third
    have first := Yields.mark isA (spelled.lexeme_eq (by simp) isA) nofun second
    simpa [lexemes] using first
  | @dot point name isPoint isName =>
    have second := Yields.name (spelled.isName (by simp) isName) isName stops behind
    have first := Yields.mark isPoint (spelled.lexeme_eq (by simp) isPoint) nofun second
    simpa [lexemes] using first

theorem IsPathSegment.stops {segment : Separator × Token} (h : IsPathSegment us segment)
    (spelled : Spelled us) (rest : List Char) : Stops isNamePart (lexemes us ++ rest) := by
  cases h with
  | colons isA _ _ =>
    have first := spelled.lexeme_eq List.mem_cons_self isA
    simp [Stops, lexemes, first, Mark.char, show isNamePart ':' = false by decide]
  | dot isPoint _ =>
    have first := spelled.lexeme_eq List.mem_cons_self isPoint
    simp [Stops, lexemes, first, Mark.char, show isNamePart '.' = false by decide]

theorem lexemes_append (ts us : List Token) : lexemes (ts ++ us) = lexemes ts ++ lexemes us :=
  List.flatMap_append

/-- The names behind the first one. -/
theorem yields_segments {more : List (Separator × Token)} (h : Repeated IsPathSegment ts more)
    (spelled : Spelled ts) : Stops isNamePart (lexemes ts) ∧ Yields (lexemes ts) ts := by
  induction h with
  | nil => exact ⟨nofun, .nil⟩
  | cons first _ ih =>
    obtain ⟨left, right⟩ := List.forall_mem_append.1 spelled
    obtain ⟨stops, behind⟩ := ih right
    rw [lexemes_append]
    exact ⟨first.stops left _, first.yields left stops behind⟩

/-- The tokens of a path are the tokens of its text. -/
theorem IsValuePath.yields {p : ValuePath} (h : IsValuePath ts p) (spelled : Spelled ts) :
    Yields p.text.toList ts := by
  rw [h.text_eq_join spelled.marksSpelled, String.toList_join, List.flatMap_map]
  change Yields (lexemes ts) ts
  obtain @⟨colons, us, leading, first, more, leads, isFirst, repeated⟩ := h
  obtain ⟨stops, behind⟩ := yields_segments repeated (spelled.of_subset (by simp))
  have path := Yields.name (spelled.isName (by simp) isFirst) isFirst stops behind
  cases leads with
  | absent => exact path
  | @present a b isA isB =>
    have second := Yields.mark isB (spelled.lexeme_eq (by simp) isB) nofun path
    exact Yields.mark isA (spelled.lexeme_eq (by simp) isA) nofun second

theorem IsPathSegment.isName {segment : Separator × Token} (h : IsPathSegment us segment)
    (spelled : Spelled us) : isName segment.2.lexeme.toList = true := by
  cases h with
  | colons _ _ name => exact spelled.isName (by simp) name
  | dot _ name => exact spelled.isName (by simp) name

theorem IsValuePath.isName_segments {p : ValuePath} (h : IsValuePath ts p) (spelled : Spelled ts) :
    ∀ s ∈ p.segments, ComponentMarkup.isName s.toList = true := by
  obtain @⟨colons, us, leading, first, more, -, isFirst, repeated⟩ := h
  refine List.forall_mem_cons.2 ⟨spelled.isName (by simp) isFirst, ?_⟩
  simp only [List.map_map, List.forall_mem_map, Function.comp_apply]
  intro segment mem
  obtain ⟨vs, isSegment, inside⟩ := repeated.exists_of_mem mem
  exact isSegment.isName (spelled.of_subset fun t ht => by simp [inside.subset ht])

end Grammar

/-! ## Points -/

namespace Path

theorem withDots_append {w : List Char} (h : ':' ∉ w) (rest : List Char) :
    withDots (w ++ rest) = w ++ withDots rest := by
  induction w with
  | nil => rfl
  | cons c w ih =>
    obtain ⟨first, others⟩ := not_or.1 (mt List.mem_cons.2 h)
    rw [List.cons_append, withDots.eq_3 _ _ fun cs eq => absurd eq.symm first, ih others]
    rfl

theorem withDots_separator (separator : Separator) (rest : List Char) :
    withDots (separator.text.toList ++ rest) = '.' :: withDots rest := by
  cases separator <;> simp [Separator.text, withDots]

theorem dropColons_append {w : List Char} (h : ':' ∉ w) (some : w ≠ []) (rest : List Char) :
    dropColons (w ++ rest) = w ++ rest := by
  cases w with
  | nil => exact absurd rfl some
  | cons c w =>
    obtain ⟨first, -⟩ := not_or.1 (mt List.mem_cons.2 h)
    rw [List.cons_append, dropColons.eq_2 _ fun cs eq => absurd (List.cons.inj eq).1.symm first]

end Path

theorem colon_not_mem_of_isName {s : List Char} (h : isName s = true) : ':' ∉ s := by
  intro mem
  exact absurd (isNamePart_of_isName h _ mem) (by decide)

namespace ValuePath

theorem withDots_join {more : List (Separator × String)}
    (h : ∀ s ∈ more, isName s.2.toList = true) :
    Path.withDots (String.join (more.map fun (separator, name) => separator.text ++ name)).toList =
      (String.join (more.map fun s => "." ++ s.2)).toList := by
  induction more with
  | nil => rfl
  | cons s more ih =>
    obtain ⟨first, others⟩ := List.forall_mem_cons.1 h
    have name := Path.withDots_append (colon_not_mem_of_isName first)
    simp only [List.map_cons, String.join_cons, String.toList_append, List.append_assoc,
      Path.withDots_separator, name, ih others]
    rfl

/-- In emitted code the segments of a path are joined by points. -/
theorem dotted_text {p : ValuePath} (h : ∀ s ∈ p.segments, isName s.toList = true) :
    Path.dotted p.text = ".".intercalate p.segments := by
  obtain ⟨first, others⟩ := List.forall_mem_cons.1 h
  have colon := colon_not_mem_of_isName first
  have tail := withDots_join (List.forall_mem_map.1 others)
  apply String.toList_inj.1
  rw [Path.dotted, String.toList_ofList, segments, String.intercalate_cons, List.map_map,
    String.toList_append]
  have path : Path.dropColons p.text.toList = p.first.toList ++
      (String.join (p.more.map fun (separator, name) => separator.text ++ name)).toList := by
    rw [text, String.append_assoc, String.toList_append, String.toList_append]
    cases p.leadingColons with
    | true => rfl
    | false => exact Path.dropColons_append colon (by rintro empty; simp [empty, isName] at first) _
  rw [path, Path.withDots_append colon, tail]
  rfl

end ValuePath

/-! ## Reading again -/

/-- The text of the path is lexed and read as the path again, but for the places in it. In emitted
code the path is its segments, joined by points. -/
structure ValuePath.IsReread (p : ValuePath) : Prop where
  reads : ∀ file, ∃ x q s, lex file p.text = .ok x ∧
    Parser.expression.run (.ofLexing x) = .ok (.path q) s ∧ s.ahead = [] ∧
    q.segments = p.segments ∧ q.separators = p.separators ∧ q.leadingColons = p.leadingColons
  dotted : Path.dotted p.text = ".".intercalate p.segments

/-- The same for a type path. -/
structure TypePath.IsReread (p : TypePath) : Prop where
  reads : ∀ file, ∃ x q s, lex file p.text = .ok x ∧
    Parser.typePath.run (.ofLexing x) = .ok q s ∧ s.ahead = [] ∧
    q.segments = p.segments ∧ q.leadingColons = p.leadingColons
  dotted : Path.dotted p.text = ".".intercalate p.segments

namespace Grammar

variable {ts : List Token}

theorem IsValuePath.isReread {p : ValuePath} (h : IsValuePath ts p) (spelled : Spelled ts) :
    p.IsReread where
  reads file := by
    obtain ⟨x, lexed, same⟩ := (h.yields spelled).exists_lex file
    obtain ⟨q, isPath, leading, first, more⟩ := h.relaid_parts same
    obtain ⟨s, run, whole⟩ := Parser.expression_whole_iff (s := .ofLexing x).2 (.path isPath)
    exact ⟨x, q, s, lexed, run, whole, by rw [ValuePath.segments, first, more, ValuePath.segments],
      by rw [ValuePath.separators, more, ValuePath.separators], leading⟩
  dotted := ValuePath.dotted_text (h.isName_segments spelled)

theorem IsTypePath.isReread {p : TypePath} (h : IsTypePath ts p) (spelled : Spelled ts) :
    p.IsReread where
  reads file := by
    have yields := h.isValuePath.yields spelled
    rw [p.text_asValuePath] at yields
    obtain ⟨x, lexed, same⟩ := yields.exists_lex file
    obtain ⟨q, isPath, leading, segments⟩ := h.relaid_parts same
    obtain ⟨s, run, whole⟩ := Parser.typePath_whole_iff (s := .ofLexing x).2 isPath
    exact ⟨x, q, s, lexed, run, whole, segments, leading⟩
  dotted := by
    have dotted := ValuePath.dotted_text (h.isValuePath.isName_segments spelled)
    rwa [p.text_asValuePath, p.segments_asValuePath] at dotted

end Grammar

/-- The paths that are read at any place of a source, alone, as the callee of a call, or as a type
path, are reread. -/
theorem isReread_of_paths {file : String} {source : List Char} {x : Lexing}
    (lexed : Lexing.ofSource file source = .ok x) {s : TokenStream} (inside : s.ahead ⊆ x.tokens) :
    (∀ p s', Parser.expression.run s = .ok (.path p) s' → p.IsReread) ∧
    (∀ p arguments span s', Parser.expression.run s = .ok (.call p arguments span) s' →
      p.IsReread) ∧
    ∀ p s', Parser.typePath.run s = .ok p s' → p.IsReread := by
  have spelled : Spelled s.ahead :=
    Spelled.of_subset (Lexing.isSpelling_of_ofSource lexed) inside
  refine ⟨fun p s' run => ?_, fun p arguments span s' run => ?_, fun p s' run => ?_⟩
  · obtain ⟨ts, isExpression, rfl⟩ := Parser.expression_sound run
    cases isExpression with
    | path isPath => exact isPath.isReread (spelled.of_subset (by simp))
  · obtain ⟨ts, isExpression, rfl⟩ := Parser.expression_sound run
    cases isExpression with
    | call isPath => exact isPath.isReread (spelled.of_subset (by simp))
  · obtain ⟨ts, isPath, rfl⟩ := Parser.typePath_sound run
    exact isPath.isReread (spelled.of_subset (by simp))

/-- A path with both separators and blanks in it, behind a character that is none of the language.
Its start is a type path. -/
theorem isReread_of_paths_mixed :
    ∃ x, Lexing.ofSource "m" "$::ui . x2 :: trueish".toList = .ok x ∧
      (TokenStream.ofLexing x).ahead ⊆ x.tokens ∧
      (∃ p s', Parser.expression.run (.ofLexing x) = .ok (.path p) s' ∧
        p.text = "::ui.x2::trueish" ∧ p.IsReread) ∧
      ∃ p s', Parser.typePath.run (.ofLexing x) = .ok p s' ∧ p.text = "::ui" ∧ p.IsReread := by
  have read : (Lexing.ofSource "m" "$::ui . x2 :: trueish".toList).map (fun x =>
      ((Parser.expression.run' (.ofLexing x)).bind fun
        | .path p => some p.text
        | _ => none,
      (Parser.typePath.run' (.ofLexing x)).map TypePath.text)) =
        .ok (some "::ui.x2::trueish", some "::ui") := by decide +kernel
  obtain ⟨x, lexed, eq⟩ := map_eq_ok.1 read
  obtain ⟨value, type⟩ := Prod.mk.inj eq
  delta EStateM.run' at value type
  have inside : (TokenStream.ofLexing x).ahead ⊆ x.tokens := List.Subset.refl _
  obtain ⟨paths, -, types⟩ := isReread_of_paths lexed inside
  refine ⟨x, lexed, inside, ?_, ?_⟩
  · cases run : Parser.expression.run (.ofLexing x) with
    | error e s' =>
      rw [run] at value
      cases value
    | ok e s' =>
      rw [run] at value
      cases e with
      | path p => exact ⟨p, s', rfl, Option.some_inj.1 value, paths p s' run⟩
      | literal | call | block => cases value
  · cases run : Parser.typePath.run (.ofLexing x) with
    | error e s' =>
      rw [run] at type
      cases type
    | ok p s' =>
      rw [run] at type
      exact ⟨p, s', rfl, Option.some_inj.1 type, types p s' run⟩

end ComponentMarkup
