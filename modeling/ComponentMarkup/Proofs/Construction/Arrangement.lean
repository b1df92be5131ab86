import ComponentMarkup.Proofs.Construction.Settings
import ComponentMarkup.Proofs.Lexing.Assembly
import ComponentMarkup.Proofs.Parsing.Interiors
import ComponentMarkup.Proofs.Parsing.Relaid

/-!
# Tags that are put together

A tag is put together from the texts of a type path and of declarations. Its tokens are those of the
texts, wherever these stand.

## Main definitions

* `PathText`, `DeclarationText` — the text of a type path, and of one declaration.
* `Arrangement` — one way to put such texts in a row.
* `IsTagOf` — a tag whose parts are such texts, however they are arranged.

## Main statements

* `PathText.exists_of_tokens`, `DeclarationText.exists_of_tokens` — what a text is in a tag.
* `IsTagOf.exists_lexing` — the tokens of a tag.
-/

namespace ComponentMarkup

open Grammar

/-- A text whose tokens are one type path. -/
structure PathText where
  text : String
  file : String
  lexing : Lexing
  path : TypePath
  lexed : lex file text = .ok lexing
  ends : lexing.EndsInToken
  read : ∃ s, Parser.typePath.run (.ofLexing lexing) = .ok path s ∧ s.ahead = []

/-- A text whose tokens are one declaration, without a comma at its end. -/
structure DeclarationText where
  text : String
  file : String
  lexing : Lexing
  property : Property
  lexed : lex file text = .ok lexing
  ends : lexing.EndsInToken
  read : ∃ s, Parser.property.run (.ofLexing lexing) = .ok property s ∧ s.ahead = []
  noComma : ∀ t ∈ lexing.tokens.getLast?, t.isMark .comma = false

/-- Whether a colon stands behind the type path; and the declarations in their order, each with
whether a comma stands behind it. -/
structure Arrangement where
  colon : Bool
  declarations : List (DeclarationText × Bool)

namespace Arrangement

def optional (written : Bool) (c : Char) : List (List Char) := if written then [[c]] else []

def declarationParts (d : DeclarationText × Bool) : List (List Char) :=
  d.1.text.toList :: optional d.2 ','

/-- The texts and marks that a tag consists of. -/
def parts (path : PathText) (a : Arrangement) : List (List Char) :=
  ['<'] :: path.text.toList :: (optional a.colon ':' ++
    (a.declarations.flatMap declarationParts ++ [['/', '>']]))

end Arrangement

/-- A tag of the form `< path [:] d₁ [,] d₂ [,] … />`, with a gap between any two parts, where the
`dᵢ` are the declarations in any order. -/
def IsTagOf (path : PathText) (declarations : List DeclarationText) (s : String) : Prop :=
  ∃ a : Arrangement, (a.declarations.map Prod.fst).Perm declarations ∧
    Laid (a.parts path) s.toList

/-! ## The parts of a tag -/

theorem Grammar.IsTypePath.ne_nil {ts : List Token} {p : TypePath} (h : IsTypePath ts p) :
    ts ≠ [] := by
  cases h with
  | mk => simp

/-- A declaration without a comma at its end stays one with a comma behind it. -/
theorem Grammar.IsDeclaration.append_comma {ts comma : List Token} {p : Property}
    (h : IsDeclaration ts p) (noComma : ∀ t ∈ ts.getLast?, t.isMark .comma = false)
    (isComma : IsOptional .comma comma) : IsDeclaration (ts ++ comma) p := by
  obtain @⟨ls, es, found, label, assign, e, isLabel, isAssign, isExpression, isFound⟩ := h
  cases isFound with
  | absent =>
    rw [List.append_nil, List.append_assoc, List.cons_append]
    exact .mk isLabel isAssign isExpression isComma
  | @present t is =>
    have last : ls ++ assign :: (es ++ [t]) = (ls ++ assign :: es) ++ [t] := by simp
    rw [last, List.getLast?_concat] at noComma
    rw [noComma t rfl] at is
    cases is

namespace PathText

variable {path : PathText}

theorem isTypePath : IsTypePath path.lexing.tokens path.path :=
  Parser.typePath_whole_iff.1 path.read

theorem isPart : IsPart path.text.toList :=
  isPart_of_lex path.lexed path.ends isTypePath.ne_nil

theorem exists_of_tokens {ts : List Token} (h : AreTokensOf path.text.toList ts) :
    ∃ p, IsTypePath ts p ∧ p.text = path.path.text := by
  obtain ⟨n, moved⟩ := shifted_of_lex path.lexed h
  exact path.isTypePath.relaid (SameText.of_shifted moved).relaid

end PathText

namespace DeclarationText

variable {d : DeclarationText}

def label (d : DeclarationText) : String := d.property.key

def setting (d : DeclarationText) : Setting := d.property.setting

theorem isDeclaration : IsDeclaration d.lexing.tokens d.property :=
  Parser.property_whole_iff.1 d.read

theorem isPart : IsPart d.text.toList := by
  refine isPart_of_lex d.lexed d.ends ?_
  obtain ⟨t, us, ahead, -⟩ := d.isDeclaration.exists_first
  rw [ahead]
  exact List.cons_ne_nil t us

/-- Wherever the text stands, and whether a comma stands behind it or not, it sets the same. -/
theorem exists_of_tokens {ts comma : List Token} (h : AreTokensOf d.text.toList ts)
    (isComma : IsOptional .comma comma) :
    ∃ p, IsDeclaration (ts ++ comma) p ∧ p.setting = d.setting := by
  obtain ⟨n, moved⟩ := shifted_of_lex d.lexed h
  have same := SameText.of_shifted moved
  obtain ⟨p, isDeclaration, alike⟩ := d.isDeclaration.sameText same
  refine ⟨p, isDeclaration.append_comma (fun t last => ?_) isComma, alike.setting_eq⟩
  obtain ⟨t', last', relaid⟩ := Relaid.exists_getLast? same.relaid last
  rw [relaid.isMark, d.noComma t' last']

end DeclarationText

/-! ## The tokens of a tag -/

/-- A mark that is a piece of its own is a part. -/
theorem isPart_mark {c : Char} {m : Mark} (cut : pieces [c] = .ok [.token (.mark m) [c]]) :
    IsPart [c] :=
  ⟨_, cut, by simp [Piece.isFault], by simp [Piece.isGap]⟩

theorem AreTokensOf.exists_mark {c : Char} {m : Mark} {ts : List Token} (h : AreTokensOf [c] ts)
    (cut : pieces [c] = .ok [.token (.mark m) [c]]) : ∃ t, ts = [t] ∧ t.isMark m = true := by
  obtain ⟨ps, l, hps, rfl⟩ := h
  cases cut.symm.trans hps
  exact ⟨_, rfl, by simp [Token.isMark]⟩

theorem pieces_lessThan : pieces ['<'] = .ok [.token (.mark .lessThan) ['<']] := by decide +kernel

theorem pieces_colon : pieces [':'] = .ok [.token (.mark .colon) [':']] := by decide +kernel

theorem pieces_comma : pieces [','] = .ok [.token (.mark .comma) [',']] := by decide +kernel

theorem pieces_closing : pieces ['/', '>'] =
    .ok [.token (.mark .slash) ['/'], .token (.mark .greaterThan) ['>']] := by decide +kernel

theorem isPart_closing : IsPart ['/', '>'] :=
  ⟨_, pieces_closing, by simp [Piece.isFault], by simp [Piece.isGap]⟩

theorem AreTokensOf.exists_closing {ts : List Token} (h : AreTokensOf ['/', '>'] ts) :
    ∃ slash closer, ts = [slash, closer] := by
  obtain ⟨ps, l, hps, rfl⟩ := h
  cases pieces_closing.symm.trans hps
  exact ⟨_, _, rfl⟩

namespace Arrangement

variable {path : PathText} {a : Arrangement}

theorem isPart_of_mem_optional {written : Bool} {c : Char} {m : Mark} {part : List Char}
    (cut : pieces [c] = .ok [.token (.mark m) [c]]) (h : part ∈ optional written c) :
    IsPart part := by
  cases written with
  | true =>
    obtain rfl := List.mem_singleton.1 h
    exact isPart_mark cut
  | false => cases h

theorem isOptional_of_tokens {written : Bool} {c : Char} {m : Mark} {tss : List (List Token)}
    (cut : pieces [c] = .ok [.token (.mark m) [c]])
    (h : List.Forall₂ AreTokensOf (optional written c) tss) : IsOptional m tss.flatten := by
  cases written with
  | true =>
    obtain ⟨ts, none, tokens, last, rfl⟩ := List.forall₂_cons_left_iff.1 h
    cases last
    obtain ⟨t, rfl, is⟩ := tokens.exists_mark cut
    exact .present is
  | false =>
    cases h
    exact .absent

theorem isPart_of_mem {part : List Char} (h : part ∈ a.parts path) : IsPart part := by
  simp only [parts, declarationParts, List.mem_cons, List.mem_append, List.mem_flatMap,
    List.not_mem_nil, or_false] at h
  rcases h with rfl | rfl | h | ⟨d, -, rfl | h⟩ | rfl
  · exact isPart_mark pieces_lessThan
  · exact path.isPart
  · exact isPart_of_mem_optional pieces_colon h
  · exact d.1.isPart
  · exact isPart_of_mem_optional pieces_comma h
  · exact isPart_closing

/-- The declarations of a tag and the commas between them are declarations by the grammar. -/
theorem exists_declared {ds : List (DeclarationText × Bool)} {tss : List (List Token)}
    (h : List.Forall₂ AreTokensOf (ds.flatMap declarationParts) tss) :
    ∃ declared, Repeated IsDeclaration tss.flatten declared ∧
      declared.map Property.setting = ds.map fun d => d.1.setting := by
  induction ds generalizing tss with
  | nil =>
    cases h
    exact ⟨[], .nil, rfl⟩
  | cons d ds ih =>
    obtain ⟨here, behind, rfl, first, rest⟩ := forall₂_append_inv h
    obtain ⟨declared, repeated, settings⟩ := ih rest
    obtain ⟨ts, comma, tokens, isComma, rfl⟩ := List.forall₂_cons_left_iff.1 first
    obtain ⟨p, isDeclaration, same⟩ :=
      d.1.exists_of_tokens tokens (isOptional_of_tokens pieces_comma isComma)
    refine ⟨p :: declared, ?_, by simp [same, settings]⟩
    rw [List.flatten_append, List.flatten_cons]
    exact .cons isDeclaration repeated

/-- A tag, as its parts make it up. -/
theorem exists_tokens {tss : List (List Token)}
    (h : List.Forall₂ AreTokensOf (a.parts path) tss) :
    ∃ opener ts colon us slash closer p declared,
      tss.flatten = opener :: (ts ++ colon ++ us ++ [slash, closer]) ∧
      IsTypePath ts p ∧ p.text = path.path.text ∧ IsOptional .colon colon ∧
      Repeated IsDeclaration us declared ∧
      declared.map Property.setting = a.declarations.map fun d => d.1.setting := by
  obtain ⟨opening, rest₁, isOpening, h₁, rfl⟩ := List.forall₂_cons_left_iff.1 h
  obtain ⟨opener, rfl, -⟩ := isOpening.exists_mark pieces_lessThan
  obtain ⟨ts, rest₂, tokens, h₂, rfl⟩ := List.forall₂_cons_left_iff.1 h₁
  obtain ⟨p, isPath, text⟩ := path.exists_of_tokens tokens
  obtain ⟨colon, rest₃, rfl, isColon, h₃⟩ := forall₂_append_inv h₂
  obtain ⟨inside, closing, rfl, isInside, h₄⟩ := forall₂_append_inv h₃
  obtain ⟨declared, repeated, settings⟩ := exists_declared isInside
  obtain ⟨us, none, isClosing, last, rfl⟩ := List.forall₂_cons_left_iff.1 h₄
  cases last
  obtain ⟨slash, closer, rfl⟩ := isClosing.exists_closing
  refine ⟨opener, ts, colon.flatten, inside.flatten, slash, closer, p, declared, ?_, isPath, text,
    isOptional_of_tokens pieces_colon isColon, repeated, settings⟩
  simp

end Arrangement

/-- However a tag is arranged, its tokens are those of the path and of the declarations. -/
theorem IsTagOf.exists_lexing {path : PathText} {declarations : List DeclarationText} {s : String}
    (h : IsTagOf path declarations s) (file : String) :
    ∃ x, lex file s = .ok x ∧ ∃ opener ts colon us slash closer p declared,
      x.tokens = opener :: (ts ++ colon ++ us ++ [slash, closer]) ∧
      IsTypePath ts p ∧ p.text = path.path.text ∧ IsOptional .colon colon ∧
      Repeated IsDeclaration us declared ∧
      (declared.map Property.setting).Perm (declarations.map DeclarationText.setting) := by
  obtain ⟨a, perm, laid⟩ := h
  obtain ⟨ps, hps, clean, tokens⟩ := tokens_of_laid laid fun part => Arrangement.isPart_of_mem
  obtain ⟨tss, flat, each⟩ := tokens (.start file)
  obtain ⟨opener, ts, colon, us, slash, closer, p, declared, eq, isPath, text, isColon, repeated,
    settings⟩ := Arrangement.exists_tokens each
  refine ⟨_, lex_eq_ok_iff.2 ⟨ps, hps, clean, rfl⟩, opener, ts, colon, us, slash, closer, p,
    declared, flat.trans eq, isPath, text, isColon, repeated, ?_⟩
  have := perm.map DeclarationText.setting
  rw [List.map_map] at this
  rw [settings]
  exact this

end ComponentMarkup
