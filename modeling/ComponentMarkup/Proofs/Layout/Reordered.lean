import ComponentMarkup.Proofs.Construction.Settings
import ComponentMarkup.Proofs.Layout.Declarations
import ComponentMarkup.Proofs.Parsing.Interiors
import ComponentMarkup.Proofs.Parsing.Neutral
import ComponentMarkup.Proofs.Parsing.Readings

/-!
# Declarations in another order

Whether declarations of distinct labels are read as the properties of a tag, and as which ones, does
not depend on their order, but for one thing: the form of the properties is told by the first name,
so the delegate keyword is a label everywhere but in front.

## Main definitions

* `DeclarationTokens` — the tokens of one declaration.
* `DeclaredTag` — a self-closing tag with declarations in some order.
* `DeclaredTag.IsReordered` — a tag with the same declarations in another order.
* `TagReader.ReadsList` — a tag is read, with a list of properties.

## Main statements

* `PropertyList.fault?_eq_none_of_perm` — whether declarations are at fault.
* `DeclaredTag.readsList_iff` — when declarations are read as a list of properties.
* `TagReader.readsList_reordered_iff` — what another order changes.
-/

namespace ComponentMarkup

open Grammar

/-! ## Declarations -/

theorem Grammar.IsDeclaration.unique {ts : List Token} {p q : Property} (hp : IsDeclaration ts p)
    (hq : IsDeclaration ts q) : p = q := by
  let s : TokenStream := ⟨ts, .start "", [], []⟩
  obtain ⟨_, run, -⟩ := Parser.property_whole_iff (s := s).2 hp
  obtain ⟨_, run', -⟩ := Parser.property_whole_iff (s := s).2 hq
  cases run.symm.trans run'
  rfl

/-- Tokens that are read as one declaration, with none left over. -/
structure DeclarationTokens where
  tokens : List Token
  property : Property
  read : ∃ s : TokenStream, s.ahead = tokens ∧
    ∃ s', Parser.property.run s = .ok property s' ∧ s'.ahead = []

namespace DeclarationTokens

def label (d : DeclarationTokens) : String := d.property.key

theorem isDeclaration (d : DeclarationTokens) : IsDeclaration d.tokens d.property := by
  obtain ⟨s, ahead, whole⟩ := d.read
  rw [← ahead]
  exact Parser.property_whole_iff.1 whole

theorem alike {d d' : DeclarationTokens} (h : SameText d.tokens d'.tokens) :
    d.property.Alike d'.property := by
  obtain ⟨q, isDeclaration, alike⟩ := d.isDeclaration.sameText h
  rwa [d'.isDeclaration.unique isDeclaration]

theorem repeated (ds : List DeclarationTokens) :
    Repeated IsDeclaration (ds.flatMap tokens) (ds.map property) := by
  induction ds with
  | nil => exact .nil
  | cons d ds ih => exact .cons d.isDeclaration ih

end DeclarationTokens

/-! ## Properties in another order -/

namespace PropertyList

variable {config : Config} {ps qs : List Property}

/-- Declarations with distinct labels are not at fault in any order, if they are not in one. -/
theorem fault?_eq_none_of_perm (perm : ps.Perm qs) (distinct : (ps.map Property.key).Nodup)
    (h : fault? config ps = none) : fault? config qs = none := by
  rw [fault?_eq_none_iff] at h ⊢
  refine ⟨fun p hp => h.1 p (perm.mem_iff.2 hp), fun _ => ?_⟩
  exact (perm.map Property.key).nodup_iff.1 distinct

theorem fault?_eq_none_of_alike (h : List.Forall₂ Property.Alike ps qs)
    (valid : fault? config ps = none) : fault? config qs = none := by
  have same := fault?_alike config h
  rw [valid] at same
  generalize fault? config qs = fault at same
  cases same
  rfl

theorem labels_eq_of_alike {l l' : PropertyList}
    (h : List.Forall₂ Property.Alike l.properties l'.properties) : l'.labels = l.labels := by
  unfold labels
  generalize l.properties = ps, l'.properties = qs at h
  induction h with
  | nil => rfl
  | cons first _ ih => simp only [List.map_cons, first.key, ih]

/-- All declarations with distinct labels count, and sorted they are the same in whatever order they
were declared. -/
theorem kept_alike_of_perm {ps' : List Property} (perm : ps.Perm ps')
    (alike : List.Forall₂ Property.Alike ps' qs) (distinct : (ps.map Property.key).Nodup)
    (start start' : Source.Location) :
    List.Forall₂ Property.Alike (kept start ps).properties (kept start' qs).properties := by
  have same := ordered_alike (winners_alike alike)
  rw [winners_of_nodup ((perm.map Property.key).nodup_iff.1 distinct),
    ← ordered_eq_of_perm perm distinct] at same
  unfold kept
  rwa [winners_of_nodup distinct]

end PropertyList

/-- Declarations are a list of properties if the first one does not look like a delegate and none is
at fault. -/
theorem Grammar.isProperties_list_iff {config : Config} {ts : List Token} {declared : List Property}
    {l : PropertyList} (h : Repeated IsDeclaration ts declared) :
    IsProperties config ts (some (.list l)) ↔
      PropertyList.fault? config declared = none ∧
        ∃ first ∈ declared.head?, first.key ≠ config.delegateKeyword ∧
          l = kept first.span.start declared := by
  constructor
  · intro isList
    cases isList with
    | list repeated notKeyword notReserved unique =>
      obtain ⟨declared, valid⟩ := repeated_isProperty_iff.2 ⟨repeated, notReserved, unique⟩
      obtain rfl := Parser.declarations_unique h declared
      exact ⟨valid, _, rfl, notKeyword, rfl⟩
  · rintro ⟨valid, first, head, notKeyword, rfl⟩
    obtain ⟨more, rfl⟩ : ∃ more, declared = first :: more := List.head?_eq_some_iff.1 head
    obtain ⟨properties, notReserved, unique⟩ := repeated_isProperty_iff.1 ⟨h, valid⟩
    exact .list properties notKeyword notReserved unique

/-! ## Tags -/

/-- A self-closing tag: a type path, a colon or none, and declarations. -/
structure DeclaredTag where
  opener : Token
  path : List Token
  typePath : TypePath
  colon : List Token
  declarations : List DeclarationTokens
  slash : Token
  closer : Token
  isOpener : opener.isMark .lessThan = true
  isPath : IsTypePath path typePath
  isColon : IsOptional .colon colon
  isSlash : slash.isMark .slash = true
  isCloser : closer.isMark .greaterThan = true

namespace DeclaredTag

def body (g : DeclaredTag) : List Token := g.declarations.flatMap DeclarationTokens.tokens

def declared (g : DeclaredTag) : List Property := g.declarations.map DeclarationTokens.property

def suffix (g : DeclaredTag) : Suffix := ⟨g.path ++ g.colon ++ g.body, some g.slash, g.closer⟩

def tokens (g : DeclaredTag) : List Token := g.opener :: g.suffix.tokens

/-- The same declarations in another order. They may be moved, but each is made up of the same
tokens, which touch each other at the same places. -/
def IsReordered (g g' : DeclaredTag) : Prop :=
  ∃ ds : List DeclarationTokens, ds.Perm g.declarations ∧
    List.Forall₂ (fun d d' => SameText d.tokens d'.tokens) ds g'.declarations

end DeclaredTag

/-- A tag is read, and its properties are the list `l`. -/
def TagReader.ReadsList (r : TagReader) (s : TokenStream) (l : PropertyList) : Prop :=
  ∃ c, (r.read s).1 = .ok c ∧ c.properties = some (.list l)

namespace DeclaredTag

variable {g g' : DeclaredTag} {r : TagReader} {s : TokenStream} {rest : List Token}
  {l : PropertyList}

theorem repeated_declared (g : DeclaredTag) : Repeated IsDeclaration g.body g.declared :=
  DeclarationTokens.repeated g.declarations

theorem neutral_interior (g : DeclaredTag) : Neutral g.suffix.interior :=
  (g.isPath.neutral.append (g.isColon.neutral rfl (by decide))).append
    (.of_repeated g.repeated_declared IsDeclaration.neutral)

theorem read_eq_ok_iff {c : ComponentTag} (ahead : s.ahead = g.tokens ++ rest) :
    (r.read s).1 = .ok c ↔
      IsInterior r.config (g.opener.spanTo g.closer) g.suffix.interior c := by
  have split : s.ahead = g.opener :: (g.suffix.interior ++ g.slash :: g.closer :: rest) := by
    rw [ahead]
    simp [tokens, Suffix.tokens, suffix]
  rw [TagReader.outcome_of_neutral g.neutral_interior split g.isOpener g.isSlash g.isCloser,
    ← Parser.interior_ok_iff (s := ⟨g.suffix.interior, g.slash.start, [], []⟩)]
  cases EStateM.run (Parser.interior r.config (g.opener.spanTo g.closer)) _ with
  | error e inner => simp
  | ok c' inner => simp

theorem readsList_iff (ahead : s.ahead = g.tokens ++ rest) :
    r.ReadsList s l ↔
      PropertyList.fault? r.config g.declared = none ∧
        ∃ first ∈ g.declared.head?, first.key ≠ r.config.delegateKeyword ∧
          l = kept first.span.start g.declared := by
  rw [← isProperties_list_iff g.repeated_declared]
  constructor
  · rintro ⟨c, read, list⟩
    rw [← list]
    exact (Parser.isProperties_of_isInterior ((read_eq_ok_iff ahead).1 read) g.isPath g.isColon
      (Parser.endsDeclaration_of_declarations g.repeated_declared)).2
  · intro isList
    exact ⟨_, (read_eq_ok_iff ahead).2 (.mk g.isPath g.isColon isList), rfl⟩

theorem IsReordered.exists_declared (h : g.IsReordered g') :
    ∃ ps, g.declared.Perm ps ∧ List.Forall₂ Property.Alike ps g'.declared := by
  obtain ⟨ds, perm, same⟩ := h
  refine ⟨ds.map DeclarationTokens.property, (perm.map _).symm, ?_⟩
  rw [declared, List.forall₂_map_left_iff, List.forall₂_map_right_iff]
  exact same.imp fun _ _ => DeclarationTokens.alike

end DeclaredTag

namespace TagReader

variable {r r' : TagReader} {s s' : TokenStream} {g g' : DeclaredTag} {rest rest' : List Token}
  {l : PropertyList}

theorem alike_of_reordered {l' : PropertyList} (ahead : s.ahead = g.tokens ++ rest)
    (ahead' : s'.ahead = g'.tokens ++ rest') (reordered : g.IsReordered g')
    (distinct : (g.declared.map Property.key).Nodup) (read : r.ReadsList s l)
    (read' : r'.ReadsList s' l') : List.Forall₂ Property.Alike l.properties l'.properties := by
  obtain ⟨-, first, -, -, rfl⟩ := (DeclaredTag.readsList_iff ahead).1 read
  obtain ⟨-, first', -, -, rfl⟩ := (DeclaredTag.readsList_iff ahead').1 read'
  obtain ⟨ps, perm, alike⟩ := reordered.exists_declared
  exact PropertyList.kept_alike_of_perm perm alike distinct ..

theorem exists_readsList_of_reordered (config : r'.config = r.config)
    (ahead : s.ahead = g.tokens ++ rest) (ahead' : s'.ahead = g'.tokens ++ rest')
    (reordered : g.IsReordered g') (distinct : (g.declared.map Property.key).Nodup)
    (read : r.ReadsList s l)
    (notKeyword : ∀ p ∈ g'.declared.head?, p.key ≠ r.config.delegateKeyword) :
    ∃ l', r'.ReadsList s' l' := by
  obtain ⟨valid, first, head, -, -⟩ := (DeclaredTag.readsList_iff ahead).1 read
  obtain ⟨ps, perm, alike⟩ := reordered.exists_declared
  have valid' := PropertyList.fault?_eq_none_of_alike alike
    (PropertyList.fault?_eq_none_of_perm perm distinct valid)
  have length : g'.declared.length = g.declared.length :=
    alike.length_eq.symm.trans perm.length_eq.symm
  cases declared : g'.declared with
  | nil =>
    rw [declared, List.length_nil, eq_comm, List.length_eq_zero_iff] at length
    rw [length] at head
    cases head
  | cons first' more =>
    have head' : first' ∈ g'.declared.head? := by rw [declared]; rfl
    refine ⟨_, (DeclaredTag.readsList_iff ahead').2 ⟨by rwa [config], first', head', ?_, rfl⟩⟩
    rw [config]
    exact notKeyword first' head'

/-- Where declarations of distinct labels are read as a list of properties, they are read so in
another order exactly if the label that comes first then is not the delegate keyword. And if they
are, it is with the same labels in the same order and with the same values. -/
theorem readsList_reordered_iff (config : r'.config = r.config)
    (ahead : s.ahead = g.tokens ++ rest) (ahead' : s'.ahead = g'.tokens ++ rest')
    (reordered : g.IsReordered g')
    (distinct : (g.declarations.map DeclarationTokens.label).Nodup) (read : r.ReadsList s l) :
    ((∃ l', r'.ReadsList s' l') ↔
      ∀ d ∈ g'.declarations.head?, d.label ≠ r.config.delegateKeyword) ∧
    ∀ l', r'.ReadsList s' l' →
      l'.labels = l.labels ∧ List.Forall₂ Property.Alike l.properties l'.properties := by
  have distinct : (g.declared.map Property.key).Nodup := by
    rw [DeclaredTag.declared, List.map_map]
    exact distinct
  have heads : g'.declared.head? = g'.declarations.head?.map DeclarationTokens.property :=
    List.head?_map
  refine ⟨⟨?accepted, fun notKeyword => ?accepts⟩, fun l' read' => ?same⟩
  case accepted =>
    rintro ⟨l', read'⟩ d hd
    obtain ⟨-, first', head', notKeyword, -⟩ := (DeclaredTag.readsList_iff ahead').1 read'
    rw [heads, Option.mem_def.1 hd] at head'
    cases head'
    rwa [config] at notKeyword
  case accepts =>
    refine exists_readsList_of_reordered config ahead ahead' reordered distinct read ?_
    rw [heads]
    intro p hp
    obtain ⟨d, hd, rfl⟩ := Option.map_eq_some_iff.1 hp
    exact notKeyword d hd
  case same =>
    have alike := alike_of_reordered ahead ahead' reordered distinct read read'
    exact ⟨PropertyList.labels_eq_of_alike alike, alike⟩

end TagReader

/-! ### The delegate keyword among the labels -/

namespace Shuffled

def location (offset : Nat) : Source.Location := ⟨"p", 1, offset + 1, offset⟩

/-- A label, `=` and a number, one right behind the other. -/
def number (label : String) (value offset : Nat) : DeclarationTokens :=
  let name : Token := ⟨.identifier, label, location offset⟩
  let assign : Token := ⟨.mark .assign, "=", name.stop⟩
  let number : Token := ⟨.integer value, toString value, assign.stop⟩
  { tokens := [name, assign, number]
    property := _
    read := ⟨⟨[name, assign, number], number.stop, [], []⟩, rfl,
      Parser.property_whole_iff.2 (.mk (.mk rfl .nil) rfl (.literal rfl) .absent)⟩ }

theorem sameText_number (label : String) (value m n : Nat) :
    SameText (number label value m).tokens (number label value n).tokens :=
  ⟨.cons rfl (.cons rfl (.cons rfl .nil)), by simp [number, gaps]⟩

/-- The component `A` with declarations, whose slash stands at `offset`. -/
def tag (declarations : List DeclarationTokens) (offset : Nat) : DeclaredTag where
  opener := ⟨.mark .lessThan, "<", location 0⟩
  path := [⟨.identifier, "A", location 1⟩]
  typePath := _
  colon := []
  declarations := declarations
  slash := ⟨.mark .slash, "/", location offset⟩
  closer := ⟨.mark .greaterThan, ">", location (offset + 1)⟩
  isOpener := rfl
  isPath := .mk .absent rfl .nil
  isColon := .absent
  isSlash := rfl
  isCloser := rfl

def stream (g : DeclaredTag) : TokenStream := ⟨g.tokens, g.closer.stop, [], []⟩

theorem ahead_stream (g : DeclaredTag) : (stream g).ahead = g.tokens ++ [] :=
  (List.append_nil _).symm

/-- The tag `<A a=1 with=2 b=3/>`. -/
def ascending : DeclaredTag := tag [number "a" 1 3, number "with" 2 7, number "b" 3 14] 17

/-- The tag `<A b=3 with=2 a=1/>`. -/
def descending : DeclaredTag := tag [number "b" 3 3, number "with" 2 7, number "a" 1 14] 17

/-- The tag `<A a=1 with=2/>`. -/
def behind : DeclaredTag := tag [number "a" 1 3, number "with" 2 7] 13

/-- The tag `<A with=2 a=1/>`. -/
def inFront : DeclaredTag := tag [number "with" 2 3, number "a" 1 10] 13

example : lex "p" "<A with=2 a=1/>" = .ok ⟨inFront.tokens, [], location 15⟩ := by decide +kernel

theorem isReordered_descending : ascending.IsReordered descending :=
  ⟨_, List.reverse_perm _,
    .cons (sameText_number ..) (.cons (sameText_number ..) (.cons (sameText_number ..) .nil))⟩

theorem isReordered_inFront : behind.IsReordered inFront :=
  ⟨_, List.reverse_perm _,
    .cons (sameText_number ..) (.cons (sameText_number ..) .nil)⟩

end Shuffled

/-- The keyword stays a label where it does not come first. -/
theorem TagReader.readsList_reordered_iff_descending :
    ∃ l l', (fresh .standard).ReadsList (Shuffled.stream Shuffled.ascending) l ∧
      (fresh .standard).ReadsList (Shuffled.stream Shuffled.descending) l' ∧
      l'.labels = l.labels ∧ List.Forall₂ Property.Alike l.properties l'.properties := by
  have read : (fresh .standard).ReadsList (Shuffled.stream Shuffled.ascending) _ :=
    (DeclaredTag.readsList_iff (Shuffled.ahead_stream _)).2
      ⟨by decide +kernel, _, rfl, by decide +kernel, rfl⟩
  have config : (fresh .standard).config = (fresh .standard).config := rfl
  obtain ⟨accepted, same⟩ := readsList_reordered_iff config (Shuffled.ahead_stream _)
    (Shuffled.ahead_stream _) Shuffled.isReordered_descending (by decide +kernel) read
  obtain ⟨l', read'⟩ := accepted.2 (by decide +kernel)
  exact ⟨_, l', read, read', same l' read'⟩

/-- Of two tags with the same declarations, one is read as a list of properties and the other one is
not: where the keyword comes first, a name has to follow. -/
theorem TagReader.readsList_keyword_inFront :
    Shuffled.behind.IsReordered Shuffled.inFront ∧
      (Shuffled.behind.declarations.map DeclarationTokens.label).Nodup ∧
      (∃ l, (fresh .standard).ReadsList (Shuffled.stream Shuffled.behind) l) ∧
      ¬ ∃ l, (fresh .standard).ReadsList (Shuffled.stream Shuffled.inFront) l := by
  refine ⟨Shuffled.isReordered_inFront, by decide +kernel, ?_, ?_⟩
  · exact ⟨_, (DeclaredTag.readsList_iff (Shuffled.ahead_stream _)).2
      ⟨by decide +kernel, _, rfl, by decide +kernel, rfl⟩⟩
  · rintro ⟨l, read⟩
    obtain ⟨-, first, head, notKeyword, -⟩ :=
      (DeclaredTag.readsList_iff (Shuffled.ahead_stream _)).1 read
    cases head
    exact notKeyword (by decide +kernel)

end ComponentMarkup
