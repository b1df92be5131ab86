import ComponentMarkup.Proofs.Lexing.Locality
import ComponentMarkup.Schema.FieldType.Reader
import Mathlib.Data.List.Chain

/-!
# The texts of field types

A field type is read from its spelling, and from every text that differs from the spelling only in
the blanks between its symbols. Any other text is an error.

## Main definitions

* `TypeSymbol.IsPath` — the names, which are identifiers with `::` between them.
* `TypeSymbol.Spaced` — symbols in a row, with blanks around each of them.
* `TypeSymbol.IsRespaced` — a text with other blanks between its symbols.
* `FieldType.WellFormed` — a type that has such names only.
* `FieldType.symbols` — what a type is spelled with.

## Main statements

* `TypeSymbol.spaced_of_scan?`, `TypeSymbol.scan?_of_spaced` — the symbols of a text.
* `FieldType.append_of_readType`, `FieldType.readType_symbols` — the type that symbols stand for.
* `FieldType.parse_eq_ok_iff_isRespaced` — the texts of a type.
-/

namespace ComponentMarkup

namespace TypeSymbol

/-! ## Names -/

/-- A letter or an underscore, and then letters, digits and underscores, all of them ASCII. -/
def IsIdentifier : List Char → Prop
  | [] => False
  | c :: cs => isStart c = true ∧ ∀ d ∈ cs, isPart d = true

/-- Of the form `identifier (:: identifier)*`. -/
inductive IsPath : List Char → Prop where
  | identifier {s : List Char} : IsIdentifier s → IsPath s
  | colons {s t : List Char} : IsIdentifier s → IsPath t → IsPath (s ++ ':' :: ':' :: t)

theorem isPart_of_isStart {c : Char} (h : isStart c = true) : isPart c = true := by
  simp only [isStart, isPart, Char.isAlphanum, Bool.or_eq_true] at h ⊢
  exact h.imp_left .inl

theorem not_isBlank_of_isPart {c : Char} (h : isPart c = true) : Text.isBlank c = false := by
  have none : ∀ n ∈ Text.blanks.points, isPart (.ofNat n) = false := by decide +kernel
  by_contra blank
  have := none _ (Text.mem_points_of_isBlank (by simpa using blank))
  rw [Char.ofNat_toNat, h] at this
  cases this

theorem IsPath.exists_cons {s : List Char} (h : IsPath s) :
    ∃ c cs, s = c :: cs ∧ isStart c = true := by
  have first : ∀ {s}, IsIdentifier s → ∃ c cs, s = c :: cs ∧ isStart c = true := by
    intro s h
    cases s with
    | nil => exact h.elim
    | cons c cs => exact ⟨c, cs, rfl, h.1⟩
  cases h with
  | identifier isIdentifier => exact first isIdentifier
  | colons isIdentifier =>
    obtain ⟨c, cs, rfl, start⟩ := first isIdentifier
    exact ⟨c, _, rfl, start⟩

theorem IsPath.cons_part {c d : Char} {s : List Char} (h : IsPath (c :: s))
    (start : isStart c = true) (part : isPart d = true) : IsPath (c :: d :: s) := by
  have grow : ∀ {t}, IsIdentifier (c :: t) → IsIdentifier (c :: d :: t) :=
    fun h => ⟨start, List.forall_mem_cons.2 ⟨part, h.2⟩⟩
  generalize eq : c :: s = t at h
  cases h with
  | identifier isIdentifier =>
    subst eq
    exact .identifier (grow isIdentifier)
  | @colons u _ isIdentifier isPath =>
    cases u with
    | nil => exact isIdentifier.elim
    | cons e u =>
      cases eq
      exact .colons (s := c :: d :: u) (grow isIdentifier) isPath

theorem IsPath.not_mem_space {s : List Char} (h : IsPath s) : ' ' ∉ s := by
  have part : isPart ' ' = false := by decide
  have noSpace : ∀ {s}, IsIdentifier s → ' ' ∉ s := by
    intro s isIdentifier mem
    cases s with
    | nil => cases mem
    | cons c cs =>
      have parts : ∀ d ∈ c :: cs, isPart d = true :=
        List.forall_mem_cons.2 ⟨isPart_of_isStart isIdentifier.1, isIdentifier.2⟩
      rw [parts _ mem] at part
      cases part
  induction h with
  | identifier isIdentifier => exact noSpace isIdentifier
  | colons isIdentifier _ ih => simp [noSpace isIdentifier, ih]

/-- No name goes on with the text. -/
def EndsName (s : List Char) : Prop := ∀ c ∈ s.head?, isPart c = false ∧ c ≠ ':'

theorem splitName_eq_nil {s : List Char} (h : EndsName s) : splitName s = ([], s) := by
  cases s with
  | nil => rfl
  | cons c cs =>
    obtain ⟨noPart, noColon⟩ := h c rfl
    rw [splitName.eq_3 _ _ (fun _ _ colon => absurd colon noColon)]
    simp [noPart]

theorem splitName_cons {c : Char} (h : isPart c = true) (s : List Char) :
    splitName (c :: s) = (c :: (splitName s).1, (splitName s).2) := by
  have noColon : c ≠ ':' := by
    rintro rfl
    exact absurd h (by decide)
  rw [splitName.eq_3 _ _ (fun _ _ colon => absurd colon noColon)]
  simp [h]

theorem splitName_append {s : List Char} (h : ∀ c ∈ s, isPart c = true) (t : List Char) :
    splitName (s ++ t) = (s ++ (splitName t).1, (splitName t).2) := by
  induction s with
  | nil => rfl
  | cons c s ih =>
    obtain ⟨first, rest⟩ := List.forall_mem_cons.1 h
    rw [List.cons_append, splitName_cons first, ih rest]
    rfl

theorem splitName_of_isPath {c : Char} {cs : List Char} (h : IsPath (c :: cs)) {rest : List Char}
    (ends : EndsName rest) : splitName (cs ++ rest) = (cs, rest) := by
  generalize eq : c :: cs = s at h
  induction h generalizing c cs with
  | identifier isIdentifier =>
    subst eq
    rw [splitName_append isIdentifier.2, splitName_eq_nil ends, List.append_nil]
  | @colons s t isIdentifier isPath ih =>
    cases s with
    | nil => exact isIdentifier.elim
    | cons d s =>
      cases eq
      obtain ⟨e, es, rfl, start⟩ := isPath.exists_cons
      have behind : splitName (':' :: ':' :: e :: (es ++ rest)) =
          (':' :: ':' :: e :: es, rest) := by
        simp [splitName, start, ih rfl]
      rw [List.append_eq, List.append_assoc, splitName_append isIdentifier.2, List.cons_append,
        List.cons_append, List.cons_append, behind]

theorem isPath_splitName {c : Char} (h : isStart c = true) (s : List Char) :
    IsPath (c :: (splitName s).1) := by
  have single {d : Char} (start : isStart d = true) : IsIdentifier [d] := ⟨start, nofun⟩
  fun_induction splitName s generalizing c with
  | case1 | case3 | case5 => exact .identifier (single h)
  | case2 d cs start split =>
    rename_i ih
    exact .colons (s := [c]) (single h) (ih start)
  | case4 d cs _ part split =>
    rename_i ih
    exact (ih h).cons_part h part

/-! ## Symbols in a text -/

def isName : TypeSymbol → Bool
  | name _ => true
  | _ => false

/-- A mark, or a name that is a path. -/
def IsSymbol : TypeSymbol → Prop
  | name s => IsPath s
  | less | greater | comma => True

/-- The symbols in a row, with blanks in front of them, between them and behind them. -/
inductive Spaced : List TypeSymbol → List Char → Prop where
  | nil {gap : List Char} : (∀ c ∈ gap, Text.isBlank c = true) → Spaced [] gap
  | cons {x : TypeSymbol} {xs : List TypeSymbol} {gap s : List Char} :
      (∀ c ∈ gap, Text.isBlank c = true) → x.IsSymbol → Spaced xs s →
      Spaced (x :: xs) (gap ++ (x.spelling ++ s))

/-- No two of them are names without a mark in between. -/
def NamesApart (xs : List TypeSymbol) : Prop :=
  xs.IsChain fun x y => ¬ (x.isName = true ∧ y.isName = true)

/-- The text is what comes of `written` when its spaces are left out and blanks are put in anywhere
but inside a name. -/
def IsRespaced (written text : String) : Prop :=
  ∃ xs, xs.flatMap spelling = written.toList.filter (· ≠ ' ') ∧ NamesApart xs ∧
    Spaced xs text.toList

variable {x : TypeSymbol} {xs : List TypeSymbol} {s : List Char}

theorem isSymbol_name : (name s).IsSymbol ↔ IsPath s := Iff.rfl

theorem isSymbol_mark (h : x.isName = false) : x.IsSymbol := by
  cases x with
  | name => cases h
  | less | greater | comma => trivial

theorem namesApart_cons_mark (h : x.isName = false) : NamesApart (x :: xs) ↔ NamesApart xs := by
  simp [NamesApart, List.isChain_cons, h]

theorem namesApart_cons (h : ∀ y ∈ xs.head?, y.isName = false) :
    NamesApart (x :: xs) ↔ NamesApart xs := by
  rw [NamesApart, List.isChain_cons, and_iff_right fun y hy both => ?_]
  · rfl
  · rw [h y hy] at both
    cases both.2

namespace Spaced

theorem blank {c : Char} (h : Spaced xs s) (blank : Text.isBlank c = true) :
    Spaced xs (c :: s) := by
  cases h with
  | nil gap => exact .nil (List.forall_mem_cons.2 ⟨blank, gap⟩)
  | cons gap isSymbol rest => exact .cons (List.forall_mem_cons.2 ⟨blank, gap⟩) isSymbol rest

theorem symbol (h : Spaced xs s) (isSymbol : x.IsSymbol) : Spaced (x :: xs) (x.spelling ++ s) :=
  @Spaced.cons x xs [] s (List.forall_mem_nil _) isSymbol h

theorem isSymbol (h : Spaced xs s) : ∀ x ∈ xs, x.IsSymbol := by
  induction h with
  | nil => nofun
  | cons _ first _ ih => exact List.forall_mem_cons.2 ⟨first, ih⟩

/-- The symbols without any blanks. -/
theorem of_isSymbol (h : ∀ x ∈ xs, x.IsSymbol) : Spaced xs (xs.flatMap spelling) := by
  induction xs with
  | nil => exact .nil nofun
  | cons x xs ih =>
    obtain ⟨first, rest⟩ := List.forall_mem_cons.1 h
    exact (ih rest).symbol first

theorem endsName (h : Spaced xs s) (noName : ∀ x ∈ xs.head?, x.isName = false) : EndsName s := by
  have blank : ∀ {c}, Text.isBlank c = true → isPart c = false ∧ c ≠ ':' := by
    intro c blank
    refine ⟨?_, ?_⟩
    · by_contra part
      rw [not_isBlank_of_isPart (by simpa using part)] at blank
      cases blank
    · rintro rfl
      exact absurd blank (by decide)
  intro c first
  cases h with
  | nil gap => exact blank (gap c (List.mem_of_mem_head? first))
  | @cons x xs gap s allBlank isSymbol rest =>
    cases gap with
    | cons d gap =>
      cases first
      exact blank (allBlank _ List.mem_cons_self)
    | nil =>
      cases x with
      | name => cases noName _ rfl
      | less | greater | comma =>
        cases first
        decide

end Spaced

theorem spaced_of_scan? (h : scan? s = some xs) : Spaced xs s := by
  fun_induction scan? s generalizing xs with
  | case1 =>
    cases h
    exact .nil nofun
  | case2 c cs blank ih => exact (ih h).blank blank
  | case3 cs blank ih =>
    obtain ⟨ys, scanned, rfl⟩ := Option.map_eq_some_iff.1 h
    exact (ih scanned).symbol trivial
  | case4 cs blank less ih =>
    obtain ⟨ys, scanned, rfl⟩ := Option.map_eq_some_iff.1 h
    exact (ih scanned).symbol trivial
  | case5 cs blank less greater ih =>
    obtain ⟨ys, scanned, rfl⟩ := Option.map_eq_some_iff.1 h
    exact (ih scanned).symbol trivial
  | case6 c cs blank less greater comma start split =>
    rename_i ih
    obtain ⟨ys, scanned, rfl⟩ := Option.map_eq_some_iff.1 h
    have spaced := (ih scanned).symbol (x := .name (c :: split.1)) (isPath_splitName start cs)
    rwa [spelling, List.cons_append, append_splitName] at spaced
  | case7 => cases h

theorem scan?_blanks {gap : List Char} (h : ∀ c ∈ gap, Text.isBlank c = true) (s : List Char) :
    scan? (gap ++ s) = scan? s := by
  induction gap with
  | nil => rfl
  | cons c gap ih =>
    obtain ⟨first, rest⟩ := List.forall_mem_cons.1 h
    rw [List.cons_append, scan?, if_pos first, ih rest]

theorem scan?_spelling (isSymbol : x.IsSymbol) (ends : x.isName = true → EndsName s) :
    scan? (x.spelling ++ s) = (scan? s).map (x :: ·) := by
  cases x with
  | less | greater | comma => rw [spelling, List.singleton_append, scan?.eq_def]; rfl
  | name t =>
    obtain ⟨c, cs, rfl, start⟩ := IsPath.exists_cons isSymbol
    have part := isPart_of_isStart start
    have blank := not_isBlank_of_isPart part
    have noMark : c ≠ '<' ∧ c ≠ '>' ∧ c ≠ ',' := by
      refine ⟨?_, ?_, ?_⟩ <;>
      · rintro rfl
        exact absurd start (by decide)
    rw [spelling, List.cons_append, scan?]
    simp [blank, noMark, start, splitName_of_isPath isSymbol (ends rfl)]

theorem scan?_of_spaced (h : Spaced xs s) (apart : NamesApart xs) : scan? s = some xs := by
  induction h with
  | nil gap =>
    have scanned := scan?_blanks gap []
    rw [List.append_nil] at scanned
    rw [scanned, scan?]
  | @cons x xs gap s allBlank isSymbol rest ih =>
    obtain ⟨next, apart⟩ := List.isChain_cons.1 apart
    have ends : x.isName = true → EndsName s := fun isName => rest.endsName fun y hy => by
      simpa [isName] using next y hy
    rw [scan?_blanks allBlank, scan?_spelling isSymbol ends, ih apart]
    rfl

end TypeSymbol

namespace FieldType

/-! ## Symbols of a type -/

@[elab_as_elim] theorem induction {P : FieldType → Prop}
    (mk : ∀ name ps, (∀ p ∈ ps, P p) → P (.mk name ps)) (t : FieldType) : P t :=
  @FieldType.rec P (fun ps => ∀ p ∈ ps, P p) mk nofun
    (fun _ _ first rest => List.forall_mem_cons.2 ⟨first, rest⟩) t

/-- Every name in it is a path. -/
inductive WellFormed : FieldType → Prop where
  | mk {name : String} {ps : List FieldType} :
      TypeSymbol.IsPath name.toList → (∀ p ∈ ps, WellFormed p) → WellFormed (.mk name ps)

mutual

/-- What a type is spelled with. -/
def symbols : FieldType → List TypeSymbol
  | mk name [] => [.name name.toList]
  | mk name (p :: ps) =>
    .name name.toList :: .less :: (p.symbols ++ (moreSymbols ps ++ [.greater]))

def moreSymbols : List FieldType → List TypeSymbol
  | [] => []
  | p :: ps => .comma :: (p.symbols ++ moreSymbols ps)

end

variable {t : FieldType} {ps : List FieldType} {name : String}

theorem moreSymbols_eq (ps : List FieldType) :
    moreSymbols ps = ps.flatMap fun p => .comma :: p.symbols := by
  induction ps with
  | nil => rfl
  | cons p ps ih => simp [moreSymbols, ih]

/-- The parameters with a comma behind each of them but the last. -/
theorem symbols_concat (name : String) (ps : List FieldType) (t : FieldType) :
    (mk name (ps ++ [t])).symbols = .name name.toList :: .less ::
      (ps.flatMap (fun p => p.symbols ++ [.comma]) ++ (t.symbols ++ [.greater])) := by
  have shift : ∀ (p : FieldType) (ps : List FieldType),
      p.symbols ++ moreSymbols (ps ++ [t]) =
        (p :: ps).flatMap (fun p => p.symbols ++ [.comma]) ++ t.symbols := by
    intro p ps
    induction ps generalizing p with
    | nil => simp [moreSymbols]
    | cons q ps ih => simp [moreSymbols, ih]
  cases ps with
  | nil => simp [symbols, moreSymbols]
  | cons p ps => simp [symbols, ← List.append_assoc, shift]

theorem wellFormed_mk_iff :
    (mk name ps).WellFormed ↔ TypeSymbol.IsPath name.toList ∧ ∀ p ∈ ps, p.WellFormed :=
  ⟨fun | .mk isPath each => ⟨isPath, each⟩, fun ⟨isPath, each⟩ => .mk isPath each⟩

theorem wellFormed_iff (t : FieldType) : t.WellFormed ↔ ∀ x ∈ t.symbols, x.IsSymbol := by
  induction t using FieldType.induction with
  | mk name ps ih =>
    rw [wellFormed_mk_iff, forall₂_congr ih]
    cases ps with
    | nil => simp [symbols, TypeSymbol.IsSymbol]
    | cons p ps =>
      have mark : ∀ m : TypeSymbol, m.isName = false → (m.IsSymbol ↔ True) :=
        fun _ noName => iff_true_intro (TypeSymbol.isSymbol_mark noName)
      have more : (∀ x ∈ moreSymbols ps, x.IsSymbol) ↔ ∀ p ∈ ps, ∀ x ∈ p.symbols, x.IsSymbol := by
        simp only [moreSymbols_eq, List.forall_mem_flatMap, List.forall_mem_cons, mark .comma rfl,
          true_and]
      simp only [symbols, List.forall_mem_cons, List.forall_mem_append, more,
        TypeSymbol.isSymbol_name, mark .less rfl, mark .greater rfl, List.not_mem_nil,
        false_implies, implies_true, true_and, and_true]

theorem toList_moreText (ps : List FieldType) :
    (moreText ps).toList = ps.flatMap fun p => ',' :: ' ' :: p.text.toList := by
  induction ps with
  | nil => rfl
  | cons p ps ih => simp [moreText, ih]

/-- The spelling of a type without its spaces. -/
theorem flatMap_spelling_symbols (h : t.WellFormed) :
    t.symbols.flatMap TypeSymbol.spelling = t.text.toList.filter (· ≠ ' ') := by
  induction t using FieldType.induction with
  | mk name ps ih =>
    obtain ⟨isPath, each⟩ := wellFormed_mk_iff.1 h
    have noSpace : name.toList.filter (· ≠ ' ') = name.toList := by
      refine List.filter_eq_self.2 fun c hc => ?_
      have ne : c ≠ ' ' := fun eq => isPath.not_mem_space (eq ▸ hc)
      simpa using ne
    cases ps with
    | nil => simpa [symbols, text, TypeSymbol.spelling] using noSpace.symm
    | cons p ps =>
      obtain ⟨first, rest⟩ := List.forall_mem_cons.1 fun q hq => ih q hq (each q hq)
      have more : (moreSymbols ps).flatMap TypeSymbol.spelling =
          (moreText ps).toList.filter (· ≠ ' ') := by
        rw [moreSymbols_eq, toList_moreText, List.flatMap_assoc, List.filter_flatMap]
        refine List.flatMap_congr fun q hq => ?_
        simpa [TypeSymbol.spelling] using rest q hq
      simp only [symbols, text, String.toList_append, List.filter_append, List.flatMap_cons,
        List.flatMap_append, TypeSymbol.spelling, noSpace, more, first]
      simp

/-- Behind a parameter comes a mark. -/
theorem isName_of_mem_head? {x : TypeSymbol} {rest : List TypeSymbol}
    (h : x ∈ (moreSymbols ps ++ .greater :: rest).head?) : x.isName = false := by
  cases ps <;> cases h <;> rfl

mutual

theorem namesApart_append (t : FieldType) {rest : List TypeSymbol}
    (next : ∀ x ∈ rest.head?, x.isName = false) (apart : TypeSymbol.NamesApart rest) :
    TypeSymbol.NamesApart (t.symbols ++ rest) := by
  match t with
  | mk name [] => exact (TypeSymbol.namesApart_cons next).2 apart
  | mk name (p :: ps) =>
    have inside := namesApart_append p (fun _ => isName_of_mem_head?) (namesApart_more ps apart)
    rw [symbols, List.cons_append, List.cons_append, List.append_assoc, List.append_assoc]
    exact (TypeSymbol.namesApart_cons (by rintro _ ⟨⟩; rfl)).2
      ((TypeSymbol.namesApart_cons_mark rfl).2 inside)

theorem namesApart_more (ps : List FieldType) {rest : List TypeSymbol}
    (apart : TypeSymbol.NamesApart rest) :
    TypeSymbol.NamesApart (moreSymbols ps ++ .greater :: rest) := by
  match ps with
  | [] => exact (TypeSymbol.namesApart_cons_mark rfl).2 apart
  | q :: ps =>
    rw [moreSymbols, List.cons_append, TypeSymbol.namesApart_cons_mark rfl, List.append_assoc]
    exact namesApart_append q (fun _ => isName_of_mem_head?) (namesApart_more ps apart)

end

theorem namesApart_symbols (t : FieldType) : TypeSymbol.NamesApart t.symbols := by
  simpa using @namesApart_append t [] nofun .nil

/-! ## Types that symbols stand for -/

mutual

theorem readType_symbols (t : FieldType) (outer : List Pending) {rest : List TypeSymbol}
    (h : rest.head? ≠ some .less) : readType outer (t.symbols ++ rest) = finish outer t rest := by
  match t with
  | mk name [] =>
    rw [symbols, List.singleton_append, readType, String.ofList_toList,
      readParameters.eq_2 _ _ _ (by rintro _ rfl; exact h rfl)]
  | mk name (p :: ps) =>
    have next : (moreSymbols ps ++ .greater :: rest).head? ≠ some .less := by
      cases ps <;> simp [moreSymbols]
    have behind := finish_moreSymbols ps outer name [] p rest
    simp only [symbols, List.cons_append, List.append_assoc, List.nil_append, readType,
      readParameters, String.ofList_toList, readType_symbols p _ next] at behind ⊢
    exact behind

/-- The last parameters of a type, where `done` are those in front of `p`. -/
theorem finish_moreSymbols (ps : List FieldType) (outer : List Pending) (name : String)
    (done : List FieldType) (p : FieldType) (rest : List TypeSymbol) :
    finish (⟨name, done⟩ :: outer) p (moreSymbols ps ++ .greater :: rest) =
      finish outer (.mk name (done ++ p :: ps)) rest := by
  match ps with
  | [] => rw [moreSymbols, List.nil_append, finish]
  | q :: ps =>
    have next : (moreSymbols ps ++ .greater :: rest).head? ≠ some .less := by
      cases ps <;> simp [moreSymbols]
    rw [moreSymbols, List.cons_append, finish, List.append_assoc, readType_symbols q _ next,
      finish_moreSymbols ps]
    simp

end

/-- The symbols that have been read of types whose parameters are being read. -/
def pendingSymbols : List Pending → List TypeSymbol
  | [] => []
  | p :: outer => pendingSymbols outer ++ .name p.name.toList :: .less ::
      p.parameters.flatMap fun t => t.symbols ++ [.comma]

/-- What has been read and what is to be read is the whole of the type, with what is left over. -/
theorem append_of_readType {outer : List Pending} {xs rest : List TypeSymbol}
    (h : readType outer xs = .ok (t, rest)) : pendingSymbols outer ++ xs = t.symbols ++ rest := by
  refine (readType.mutual_induct
    (fun outer xs => readType outer xs = .ok (t, rest) →
      pendingSymbols outer ++ xs = t.symbols ++ rest)
    (fun outer name xs => readParameters outer name xs = .ok (t, rest) →
      pendingSymbols outer ++ .name name.toList :: xs = t.symbols ++ rest)
    (fun outer u xs => finish outer u xs = .ok (t, rest) →
      pendingSymbols outer ++ (u.symbols ++ xs) = t.symbols ++ rest)
    ?_ ?_ ?_ ?_ ?_ ?_ ?_ ?_).1 outer xs h
  · intro outer spelling xs ih h
    rw [readType] at h
    simpa using ih h
  · intro outer xs noName h
    rw [readType.eq_2 _ _ noName] at h
    cases h
  · intro outer name xs ih h
    rw [readParameters] at h
    simpa [pendingSymbols] using ih h
  · intro outer name xs noLess ih h
    rw [readParameters.eq_2 _ _ _ noLess] at h
    simpa [symbols] using ih h
  · intro u xs h
    rw [finish] at h
    cases h
    rfl
  · intro p outer u xs ih h
    rw [finish] at h
    simpa [pendingSymbols] using ih h
  · intro p outer u xs ih h
    rw [finish] at h
    simpa [pendingSymbols, symbols_concat] using ih h
  · intro xs p outer u noComma noGreater h
    rw [finish.eq_4 _ _ _ _ noComma noGreater] at h
    cases h

theorem parse_eq_ok_iff_spaced {text : String} :
    parse text = .ok t ↔ t.WellFormed ∧ TypeSymbol.Spaced t.symbols text.toList := by
  constructor
  · intro h
    unfold parse at h
    split at h
    case h_1 => cases h
    case h_2 xs scanned =>
      split at h
      case h_1 => cases h
      case h_3 => cases h
      case h_2 u read =>
        cases h
        have whole : xs = t.symbols := by simpa [pendingSymbols] using append_of_readType read
        subst whole
        have spaced := TypeSymbol.spaced_of_scan? scanned
        exact ⟨(wellFormed_iff t).2 spaced.isSymbol, spaced⟩
  · rintro ⟨-, spaced⟩
    have read : readType [] t.symbols = .ok (t, []) := by
      have read := @readType_symbols t [] [] nofun
      rwa [List.append_nil, finish] at read
    simp only [parse, TypeSymbol.scan?_of_spaced spaced t.namesApart_symbols, read]

/-- The blanks of a text that its own spelling is respaced to. -/
theorem isRespaced_iff (wellFormed : t.WellFormed) {text : String} :
    TypeSymbol.IsRespaced t.text text ↔ TypeSymbol.Spaced t.symbols text.toList := by
  have spelling := flatMap_spelling_symbols wellFormed
  constructor
  · rintro ⟨xs, spelled, apart, spaced⟩
    -- Without any blanks, a text has only these symbols.
    have scanned := TypeSymbol.scan?_of_spaced (.of_isSymbol spaced.isSymbol) apart
    have scanned' := TypeSymbol.scan?_of_spaced
      (.of_isSymbol ((wellFormed_iff t).1 wellFormed)) t.namesApart_symbols
    rw [spelled, ← spelling, scanned', Option.some.injEq] at scanned
    rwa [scanned]
  · exact fun spaced => ⟨t.symbols, spelling, t.namesApart_symbols, spaced⟩

theorem spaced_mark {m : TypeSymbol} {xs : List TypeSymbol} {s : List Char}
    (h : m.isName = false) (rest : TypeSymbol.Spaced xs s) :
    TypeSymbol.Spaced (m :: xs) (m.spelling ++ s) :=
  rest.symbol (TypeSymbol.isSymbol_mark h)

mutual

/-- A type is spelled with its symbols and one space behind each comma. -/
theorem spaced_append (t : FieldType) (h : t.WellFormed) {xs : List TypeSymbol} {s : List Char}
    (rest : TypeSymbol.Spaced xs s) : TypeSymbol.Spaced (t.symbols ++ xs) (t.text.toList ++ s) := by
  match t with
  | mk name [] => exact rest.symbol (x := .name name.toList) (wellFormed_mk_iff.1 h).1
  | mk name (p :: ps) =>
    obtain ⟨isPath, each⟩ := wellFormed_mk_iff.1 h
    obtain ⟨first, more⟩ := List.forall_mem_cons.1 each
    have behind := spaced_mark (m := .less) rfl (spaced_append p first (spaced_more ps more rest))
    have whole := behind.symbol (x := .name name.toList) isPath
    simpa [symbols, text, TypeSymbol.spelling] using whole

theorem spaced_more (ps : List FieldType) (h : ∀ p ∈ ps, p.WellFormed) {xs : List TypeSymbol}
    {s : List Char} (rest : TypeSymbol.Spaced xs s) :
    TypeSymbol.Spaced (moreSymbols ps ++ .greater :: xs) ((moreText ps).toList ++ '>' :: s) := by
  match ps with
  | [] => exact spaced_mark (m := .greater) rfl rest
  | q :: ps =>
    obtain ⟨first, more⟩ := List.forall_mem_cons.1 h
    have behind := spaced_append q first (spaced_more ps more rest)
    have whole := spaced_mark (m := .comma) rfl (behind.blank (c := ' ') (by decide))
    simpa [moreSymbols, moreText, TypeSymbol.spelling] using whole

end

theorem error_text {text : String} {e : FieldTypeError} (h : parse text = .error e) :
    e.text = text := by
  unfold parse at h
  split at h
  case h_1 =>
    cases h
    rfl
  case h_2 =>
    split at h <;> cases h <;> rfl

/-- A text is read as a type exactly if the type has names for names and the text is its spelling
with other blanks between the symbols. Any other text is an error, and the spelling itself is read
as the type. -/
theorem parse_eq_ok_iff_isRespaced (text : String) :
    (∀ t : FieldType, parse text = .ok t ↔ t.WellFormed ∧ TypeSymbol.IsRespaced t.text text) ∧
      ((∃ e, parse text = .error e ∧ e.text = text) ↔
        ∀ t : FieldType, t.WellFormed → ¬ TypeSymbol.IsRespaced t.text text) ∧
      ∀ t : FieldType, t.WellFormed → parse t.text = .ok t := by
  have reads : ∀ t, parse text = .ok t ↔ t.WellFormed ∧ TypeSymbol.IsRespaced t.text text := by
    intro t
    rw [parse_eq_ok_iff_spaced]
    exact and_congr_right fun wellFormed => (isRespaced_iff wellFormed).symm
  refine ⟨reads, ?_, fun t wellFormed => parse_eq_ok_iff_spaced.2 ⟨wellFormed, ?_⟩⟩
  case refine_2 =>
    have none : TypeSymbol.Spaced [] [] := .nil nofun
    simpa using t.spaced_append wellFormed none
  constructor
  · rintro ⟨e, fails, -⟩ t wellFormed respaced
    cases fails.symm.trans ((reads t).2 ⟨wellFormed, respaced⟩)
  · intro none
    cases read : parse text with
    | error e => exact ⟨e, rfl, error_text read⟩
    | ok t =>
      obtain ⟨wellFormed, respaced⟩ := (reads t).1 read
      exact absurd respaced (none t wellFormed)

end FieldType

end ComponentMarkup
