import ComponentMarkup.Proofs.Compilation.Emission
import ComponentMarkup.Proofs.Construction.Arrangement

/-!
# Canonical emission

The order in which properties are declared, the commas behind them, the colon behind the type path
and the layout leave no trace in emitted code.

## Main definitions

* `DeclarationText.canonical` — what declarations set.

## Main statements

* `IsTagOf.hasSettings` — what a tag sets depends on its parts only.
* `IsTagOf.exists_compilation` — a tag that is read is compiled if its declarations are fields.
* `source_eq_of_isTagOf` — tags of the same parts emit the same source.
-/

namespace ComponentMarkup

open Grammar

/-- What a tag of the declarations sets: all of them, sorted by label. -/
def DeclarationText.canonical (declarations : List DeclarationText) : Option (List Setting) :=
  if declarations = [] then none
  else some ((PropertyList.ordered (declarations.map DeclarationText.property)).map
    Property.setting)

theorem DeclarationText.exists_of_mem_canonical {declarations : List DeclarationText}
    {setting : Setting} (h : setting ∈ (canonical declarations).getD []) :
    ∃ d ∈ declarations, d.setting = setting := by
  unfold canonical at h
  split at h
  · cases h
  · obtain ⟨p, hp, rfl⟩ := List.mem_map.1 h
    obtain ⟨d, hd, rfl⟩ := List.mem_map.1 (List.mem_mergeSort.1 hp)
    exact ⟨d, hd, rfl⟩

theorem ComponentTag.HasSettings.map_declared {c : ComponentTag} {settings : Option (List Setting)}
    (h : c.HasSettings settings) : c.declared.map Property.setting = settings.getD [] := by
  cases h with
  | none spec => simp [ComponentTag.declared, spec]
  | list spec => simp [ComponentTag.declared, spec]

namespace IsTagOf

variable {path : PathText} {declarations : List DeclarationText} {s : String}

/-- What a tag sets depends on its parts only. -/
theorem hasSettings (h : IsTagOf path declarations s)
    (distinct : (declarations.map DeclarationText.label).Nodup) {config : Config} {file : String}
    {x : Lexing} {c : ComponentTag} {ws : List Warning} {s' : TokenStream}
    (lexed : lex file s = .ok x) (run : (Stage.tag config).run (.ofLexing x) = .ok (c, ws) s') :
    c.typePath.text = path.path.text ∧
      c.HasSettings (DeclarationText.canonical declarations) := by
  obtain ⟨x', lexed', opener, ts, colon, us, slash, closer, p, declared, tokens, isPath, text,
    isColon, repeated, perm⟩ := h.exists_lexing file
  cases lexed.symm.trans lexed'
  obtain ⟨opener', slash', closer', inside, -, -, -, ahead, isInterior⟩ := Stage.tag_sound run
  have whole : opener :: (ts ++ colon ++ us ++ [slash, closer]) =
      opener' :: (inside ++ [slash', closer']) := tokens.symm.trans ahead
  obtain ⟨rfl, behind⟩ := List.cons.inj whole
  obtain ⟨rfl, -⟩ := List.append_inj' behind rfl
  obtain ⟨path', spec⟩ := Parser.eq_of_isInterior isInterior isPath isColon repeated
  refine ⟨by rw [path', text], ?_⟩
  have keys : (declared.map Property.key).Perm (declarations.map DeclarationText.label) := by
    have labels := perm.map Setting.label
    rw [List.map_map, List.map_map] at labels
    exact labels
  unfold DeclarationText.canonical
  rcases spec with ⟨rfl, none⟩ | ⟨ne, start, list⟩
  · obtain rfl : declarations = [] := List.map_eq_nil_iff.1 perm.nil_eq.symm
    exact .none none
  · have ne' : declarations ≠ [] := by
      rintro rfl
      exact ne (List.map_eq_nil_iff.1 perm.eq_nil)
    have distinct' := keys.nodup_iff.2 distinct
    have perm' : (declared.map Property.setting).Perm
        ((declarations.map DeclarationText.property).map Property.setting) := by
      rw [List.map_map]
      exact perm
    -- All declarations count, and sorted they are the same in whatever order they were declared.
    rw [if_neg ne', ← PropertyList.map_setting_ordered perm' distinct',
      ← PropertyList.winners_of_nodup distinct']
    exact .list list

/-- A tag that is read is compiled if its declarations are fields. -/
theorem exists_compilation (h : IsTagOf path declarations s)
    (distinct : (declarations.map DeclarationText.label).Nodup) {registry : Registry}
    (config : Config) (file : Option String) {schema : Schema}
    (accepted : (lex (fileName config file) s).toOption.any (Stage.accepts config) = true)
    (found : (registry.lookup? path.path.text).bind TypeInfo.properties? = some schema)
    (fields : ∀ d ∈ declarations, schema.hasField d.label = true) :
    ∃ c, compile registry config file s = .ok (some c) := by
  obtain ⟨x, lexed, -⟩ := h.exists_lexing (fileName config file)
  rw [lexed] at accepted
  obtain ⟨c, ws, s', run, compiled⟩ := exists_tag_of_accepts registry lexed accepted
  obtain ⟨text, settings⟩ := h.hasSettings distinct lexed run
  rw [← text] at found
  refine compiled (Registry.errors_validate_eq_nil_iff.2 ⟨schema, found, fun p hp => ?_⟩)
  have declared : p.setting ∈ (DeclarationText.canonical declarations).getD [] := by
    rw [← settings.map_declared]
    exact List.mem_map_of_mem hp
  obtain ⟨d, hd, same⟩ := DeclarationText.exists_of_mem_canonical declared
  have key : d.label = p.key := congrArg Setting.label same
  rw [← key]
  exact fields d hd

end IsTagOf

/-- Whatever the order of the declarations, the commas behind them, the colon behind the path and
the gaps, tags of the same parts that are compiled emit the same source. -/
theorem source_eq_of_isTagOf {path : PathText} {declarations : List DeclarationText}
    (distinct : (declarations.map DeclarationText.label).Nodup) {s t : String}
    (hs : IsTagOf path declarations s) (ht : IsTagOf path declarations t) {registry : Registry}
    {config : Config} {file file' : Option String} {c c' : Compilation}
    (hc : compile registry config file s = .ok (some c))
    (hc' : compile registry config file' t = .ok (some c')) :
    c'.construction.source = c.construction.source := by
  obtain ⟨x, lexed, -⟩ := hs.exists_lexing (fileName config file)
  obtain ⟨x', lexed', -⟩ := ht.exists_lexing (fileName config file')
  obtain ⟨⟨s₁, run⟩, emitted⟩ := exists_tag_of_compile lexed hc
  obtain ⟨⟨s₂, run'⟩, emitted'⟩ := exists_tag_of_compile lexed' hc'
  obtain ⟨text, settings⟩ := hs.hasSettings distinct lexed run
  obtain ⟨text', settings'⟩ := ht.hasSettings distinct lexed' run'
  rw [Emission.construction_eq emitted emitted' settings settings' (text'.trans text.symm)]

/-! ### Two tags of the same parts -/

namespace Swapped

def path : PathText where
  text := "A"
  file := "p"
  lexing := ⟨[⟨.identifier, "A", ⟨"p", 1, 1, 0⟩⟩], [], ⟨"p", 1, 2, 1⟩⟩
  path := _
  lexed := by decide +kernel
  ends := by rintro t ⟨⟩; rfl
  read := Parser.typePath_whole_iff.2 (.mk .absent rfl .nil)

def number : DeclarationText where
  text := "a=1"
  file := "p"
  lexing := ⟨[⟨.identifier, "a", ⟨"p", 1, 1, 0⟩⟩, ⟨.mark .assign, "=", ⟨"p", 1, 2, 1⟩⟩,
    ⟨.integer 1, "1", ⟨"p", 1, 3, 2⟩⟩], [], ⟨"p", 1, 4, 3⟩⟩
  property := _
  lexed := by decide +kernel
  ends := by rintro t ⟨⟩; rfl
  read := Parser.property_whole_iff.2 (.mk (.mk rfl .nil) rfl (.literal rfl) .absent)
  noComma := by rintro t ⟨⟩; rfl

def block : DeclarationText where
  text := "b=\x7b2 u\x7d"
  file := "p"
  lexing := ⟨[⟨.identifier, "b", ⟨"p", 1, 1, 0⟩⟩, ⟨.mark .assign, "=", ⟨"p", 1, 2, 1⟩⟩,
    ⟨.mark .leftBrace, "\x7b", ⟨"p", 1, 3, 2⟩⟩, ⟨.integer 2, "2", ⟨"p", 1, 4, 3⟩⟩,
    ⟨.identifier, "u", ⟨"p", 1, 6, 5⟩⟩, ⟨.mark .rightBrace, "\x7d", ⟨"p", 1, 7, 6⟩⟩], [],
    ⟨"p", 1, 8, 7⟩⟩
  property := _
  lexed := by decide +kernel
  ends := by rintro t ⟨⟩; rfl
  read := Parser.property_whole_iff.2 (.mk (.mk rfl .nil) rfl
    (.block rfl (.other rfl rfl (.other rfl rfl .nil)) rfl) .absent)
  noComma := by rintro t ⟨⟩; rfl

def schema : Schema := ⟨"AProps", [⟨"a", .mk "i32" []⟩, ⟨"b", .mk "i32" []⟩]⟩

def registry : Registry := { types := [⟨"A", .component schema⟩] }

theorem labels : [number, block].map DeclarationText.label = ["a", "b"] := rfl

theorem gap : Gap [' '] := .blank (by decide) .nil

theorem isTagOf_descending : IsTagOf path [number, block] "< A b=\x7b2 u\x7d a=1 />" := by
  refine ⟨⟨false, [(block, false), (number, false)]⟩, .swap .., ?_⟩
  have row : "< A b=\x7b2 u\x7d a=1 />".toList = ['<'] ++ ([' '] ++ ("A".toList ++ ([' '] ++
      ("b=\x7b2 u\x7d".toList ++ ([' '] ++ ("a=1".toList ++ ([' '] ++ ['/', '>']))))))) := by
    decide +kernel
  rw [row]
  exact .cons gap nofun (.cons gap nofun (.cons gap nofun (.cons gap nofun (.last _))))

theorem isTagOf_ascending : IsTagOf path [number, block] "< A : a=1 , b=\x7b2 u\x7d />" := by
  refine ⟨⟨true, [(number, true), (block, false)]⟩, .refl _, ?_⟩
  have row : "< A : a=1 , b=\x7b2 u\x7d />".toList = ['<'] ++ ([' '] ++ ("A".toList ++ ([' '] ++
      ([':'] ++ ([' '] ++ ("a=1".toList ++ ([' '] ++ ([','] ++ ([' '] ++
      ("b=\x7b2 u\x7d".toList ++ ([' '] ++ ['/', '>']))))))))))) := by decide +kernel
  rw [row]
  exact .cons gap nofun (.cons gap nofun (.cons gap nofun (.cons gap nofun (.cons gap nofun
    (.cons gap nofun (.last _))))))

theorem exists_compilation {s : String} (h : IsTagOf path [number, block] s)
    (accepted : (lex (fileName .standard none) s).toOption.any (Stage.accepts .standard) = true) :
    ∃ c, compile registry .standard none s = .ok (some c) := by
  have found : (registry.lookup? path.path.text).bind TypeInfo.properties? = some schema := by
    have text : path.path.text = "A" := rfl
    rw [text]
    decide +kernel
  have fields : ∀ label ∈ ["a", "b"], schema.hasField label = true := by
    simp [schema, Schema.hasField, Schema.field?]
  rw [← labels] at fields
  exact h.exists_compilation (labels ▸ by decide) .standard none accepted found fun d hd =>
    fields _ (List.mem_map_of_mem hd)

end Swapped

/-- Two declarations in both orders, once with a colon and with a comma behind the first one. The
block starts at another offset each time, but its tokens stay as far apart as they are. -/
theorem source_eq_of_isTagOf_swapped :
    ∃ c c',
      compile Swapped.registry .standard none "< A b=\x7b2 u\x7d a=1 />" = .ok (some c) ∧
      compile Swapped.registry .standard none "< A : a=1 , b=\x7b2 u\x7d />" = .ok (some c') ∧
      c'.construction.source = c.construction.source := by
  have distinct : ([Swapped.number, Swapped.block].map DeclarationText.label).Nodup :=
    Swapped.labels ▸ by decide
  obtain ⟨c, hc⟩ := Swapped.exists_compilation Swapped.isTagOf_descending (by decide +kernel)
  obtain ⟨c', hc'⟩ := Swapped.exists_compilation Swapped.isTagOf_ascending (by decide +kernel)
  exact ⟨c, c', hc, hc', source_eq_of_isTagOf distinct Swapped.isTagOf_descending
    Swapped.isTagOf_ascending hc hc'⟩

end ComponentMarkup
