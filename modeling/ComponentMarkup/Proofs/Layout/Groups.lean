import ComponentMarkup.Proofs.Layout.Respaced
import ComponentMarkup.Proofs.Parsing.TagEnds

/-!
# Groups and suffixes with another layout

Where a group ends, and where a tag does, is told by the tokens alone.

## Main definitions

* `ExceptAlike` — results that are related, or errors that are.
* `GroupFault.Alike`, `Group.Alike`, `Suffix.Alike` — the same but for the places.

## Main statements

* `Group.read_alike`, `Group.fault_alike` — groups, and what is wrong with brackets.
* `Parser.group_alike` — reading a group.
* `Suffix.Passes.alike`, `Suffix.Ends.alike` — a step of the search for the end of a tag.
* `Suffix.scan_alike`, `Parser.suffix_alike` — the whole search.
-/

namespace ComponentMarkup

open Source (Location)

inductive ExceptAlike {ε α : Type} (E : ε → ε → Prop) (Q : α → α → Prop) :
    Except ε α → Except ε α → Prop
  | ok {a a' : α} : Q a a' → ExceptAlike E Q (.ok a) (.ok a')
  | error {e e' : ε} : E e e' → ExceptAlike E Q (.error e) (.error e')

theorem ExceptAlike.map {ε α β : Type} {E : ε → ε → Prop} {Q : α → α → Prop} {R : β → β → Prop}
    {r r' : Except ε α} {f f' : α → β} (h : ExceptAlike E Q r r')
    (step : ∀ {a a'}, Q a a' → R (f a) (f' a')) : ExceptAlike E R (r.map f) (r'.map f') := by
  cases h with
  | ok related => exact .ok (step related)
  | error fails => exact .error fails

theorem ExceptAlike.exists_ok {ε α : Type} {E : ε → ε → Prop} {Q : α → α → Prop} {a : α}
    {r : Except ε α} (h : ExceptAlike E Q (.ok a) r) : ∃ a', r = .ok a' ∧ Q a a' := by
  cases h with
  | ok related => exact ⟨_, rfl, related⟩

theorem ExceptAlike.exists_error {ε α : Type} {E : ε → ε → Prop} {Q : α → α → Prop} {e : ε}
    {r : Except ε α} (h : ExceptAlike E Q (.error e) r) : ∃ e', r = .error e' ∧ E e e' := by
  cases h with
  | error fails => exact ⟨_, rfl, fails⟩

variable {ts us : List Token}

/-! ## Groups -/

inductive GroupFault.Alike : GroupFault → GroupFault → Prop
  | notOpened : Alike .notOpened .notOpened
  | mismatch (due : Mark) {t u : Token} : t.Relaid u → Alike (.mismatch due t) (.mismatch due u)
  | stray {t u : Token} : t.Relaid u → Alike (.stray t) (.stray u)
  | unclosed : Alike .unclosed .unclosed

structure Group.Alike (g g' : Group) : Prop where
  opener : g.opener.Relaid g'.opener
  inside : Relaid g.inside g'.inside
  closer : g.closer.Relaid g'.closer

namespace Group

theorem Alike.tokens {g g' : Group} (h : g.Alike g') : Relaid g.tokens g'.tokens :=
  .cons h.opener (List.rel_append h.inside (.cons h.closer .nil))

theorem close_alike (h : Relaid ts us) (due : List Mark) :
    ExceptAlike GroupFault.Alike
      (fun r r' => Relaid r.1 r'.1 ∧ r.2.1.Relaid r'.2.1 ∧ Relaid r.2.2 r'.2.2)
      (close due ts) (close due us) := by
  induction h generalizing due with
  | nil => exact .error .unclosed
  | @cons t u ts us first rest ih =>
    simp only [close, first.opens?, first.closes?]
    split
    · exact (ih _).map fun related => ⟨.cons first related.1, related.2⟩
    split
    · exact (ih _).map fun related => ⟨.cons first related.1, related.2⟩
    split
    · exact .error (.stray first)
    split
    · exact .error (.mismatch _ first)
    split
    · exact .ok ⟨.nil, first, rest⟩
    · exact (ih _).map fun related => ⟨.cons first related.1, related.2⟩

theorem read_alike (h : Relaid ts us) :
    ExceptAlike GroupFault.Alike (fun r r' => r.1.Alike r'.1 ∧ Relaid r.2 r'.2)
      (read ts) (read us) := by
  cases h with
  | nil => exact .error .notOpened
  | @cons t u ts us first rest =>
    simp only [read, first.opens?]
    split
    · exact .error .notOpened
    · exact (close_alike rest _).map fun related =>
        ⟨⟨first, related.1, related.2.1⟩, related.2.2⟩

theorem fault_alike (h : Relaid ts us) (due : List Mark) :
    (fault due ts).Alike (fault due us) := by
  induction h generalizing due with
  | nil => exact .unclosed
  | @cons t u ts us first _ ih =>
    simp only [fault, first.opens?, first.closes?]
    split
    · exact ih _
    split
    · exact ih _
    split
    · exact .stray first
    split
    · exact ih _
    · exact .mismatch _ first

end Group

theorem Parser.groupFailure_alike {f f' : GroupFault} (hf : f.Alike f') (h : Relaid ts us)
    (stop stop' : Location) :
    (groupFailure stop f ts).Alike (groupFailure stop' f' us) := by
  cases hf with
  | stray found =>
    cases h <;> exact .strayCloser found
  | notOpened | mismatch | unclosed =>
    cases h with
    | nil => exact .nothingToSkip
    | @cons t u ts us first rest =>
      have faults := Group.fault_alike (.cons first rest) []
      simp only [groupFailure]
      generalize Group.fault [] (t :: ts) = f, Group.fault [] (u :: us) = f' at faults
      cases faults with
      | mismatch due found => exact .rejected (ParseError.unexpectedToken_alike _ found)
      | stray found => exact .strayCloser found
      | notOpened | unclosed =>
        exact .rejected (ParseError.unclosedDelimiter_alike first stop stop')

theorem Parser.group_alike {s s' : TokenStream} (h : s.Respaced s') :
    Alike Group.Alike (group.run s) (group.run s') := by
  rw [group, run_bind_of_ok run_get, run_bind_of_ok run_get]
  have reads := Group.read_alike h.ahead.relaid
  generalize read : Group.read s.ahead = r, read' : Group.read s'.ahead = r' at reads ⊢
  cases reads with
  | error faults => exact .error (groupFailure_alike faults h.ahead.relaid s.stop s'.stop)
  | ok related =>
    have rest := h.ahead.of_suffix ⟨_, Group.append_of_read read⟩ ⟨_, Group.append_of_read read'⟩
      related.2.length_eq.symm
    exact .ok related.1 ⟨rest, h.warnings⟩

/-! ## Suffixes -/

structure Suffix.Alike (x x' : Suffix) : Prop where
  interior : Relaid x.interior x'.interior
  slash : Option.Rel Token.Relaid x.slash x'.slash
  closer : x.closer.Relaid x'.closer

namespace Suffix

theorem meetsCloser_iff (h : Relaid ts us) : MeetsCloser ts ↔ MeetsCloser us := by
  cases h with
  | nil => rfl
  | cons first _ => rw [meetsCloser_cons, meetsCloser_cons, first.isMark]

theorem prepend_alike {r r' : Suffix × List Token} (h : Relaid ts us)
    (alike : r.1.Alike r'.1 ∧ Relaid r.2 r'.2) :
    (prepend ts r).1.Alike (prepend us r').1 ∧ Relaid (prepend ts r).2 (prepend us r').2 :=
  ⟨⟨List.rel_append h alike.1.interior, alike.1.slash, alike.1.closer⟩, alike.2⟩

/-- At the same tokens in another layout, the search takes the same step. -/
theorem Passes.alike {depth depth' : Nat} {passed rest : List Token}
    (step : Passes depth ts passed depth' rest) (h : Relaid ts us) :
    ∃ passed' rest', Passes depth us passed' depth' rest' ∧ Relaid passed passed' ∧
      Relaid rest rest' := by
  cases step with
  | group opens read =>
    obtain ⟨u, us, rfl, first, -⟩ := h.cons_inv
    have reads := Group.read_alike h
    rw [read] at reads
    obtain ⟨⟨g', rest'⟩, read', groups, behind⟩ := reads.exists_ok
    exact ⟨_, _, .group (by rwa [first.opens?]) read', groups.tokens, behind⟩
  | closer isCloser =>
    obtain ⟨u, us, rfl, first, behind⟩ := h.cons_inv
    exact ⟨_, _, .closer ((first.isMark _).trans isCloser), .cons first .nil, behind⟩
  | opener isOpener =>
    obtain ⟨u, us, rfl, first, behind⟩ := h.cons_inv
    exact ⟨_, _, .opener ((first.isMark _).trans isOpener), .cons first .nil, behind⟩
  | arrow isDash isHead =>
    obtain ⟨u, us, rfl, first, more⟩ := h.cons_inv
    obtain ⟨v, us, rfl, second, behind⟩ := more.cons_inv
    exact ⟨_, _, .arrow ((first.isMark _).trans isDash) ((second.isMark _).trans isHead),
      .cons first (.cons second .nil), behind⟩
  | single opens notOpener notCloser dash slash =>
    obtain ⟨u, us, rfl, first, behind⟩ := h.cons_inv
    rw [← first.opens?] at opens
    rw [← first.isMark] at notOpener notCloser dash slash
    rw [meetsCloser_iff behind] at dash slash
    exact ⟨_, _, .single opens notOpener notCloser dash slash, .cons first .nil, behind⟩

theorem Ends.alike {stop : Location} {depth : Nat} {r : Except Failure (Suffix × List Token)}
    (last : Ends stop depth ts r) (h : Relaid ts us) (stop' : Location) :
    ∃ r', Ends stop' depth us r' ∧
      ExceptAlike Failure.Alike (fun r r' => r.1.Alike r'.1 ∧ Relaid r.2 r'.2) r r' := by
  cases last with
  | opening isCloser =>
    obtain ⟨u, us, rfl, first, behind⟩ := h.cons_inv
    exact ⟨_, .opening ((first.isMark _).trans isCloser), .ok ⟨⟨.nil, .none, first⟩, behind⟩⟩
  | selfClosing isSlash isCloser =>
    obtain ⟨u, us, rfl, first, more⟩ := h.cons_inv
    obtain ⟨v, us, rfl, second, behind⟩ := more.cons_inv
    exact ⟨_, .selfClosing ((first.isMark _).trans isSlash) ((second.isMark _).trans isCloser),
      .ok ⟨⟨.nil, .some first, second⟩, behind⟩⟩
  | noTokens =>
    cases h
    exact ⟨_, .noTokens, .error (.rejected ⟨rfl, rfl, rfl⟩)⟩
  | noGroup opens read =>
    obtain ⟨u, us, rfl, first, -⟩ := h.cons_inv
    have reads := Group.read_alike h
    rw [read] at reads
    obtain ⟨fault', read', faults⟩ := reads.exists_error
    exact ⟨_, .noGroup (by rwa [first.opens?]) read',
      .error (Parser.groupFailure_alike faults h stop stop')⟩

theorem scan_alike (h : Relaid ts us) (stop stop' : Location) (depth : Nat) :
    ExceptAlike Failure.Alike (fun r r' => r.1.Alike r'.1 ∧ Relaid r.2 r'.2)
      (scan stop depth ts) (scan stop' depth us) := by
  have scans := scans_scan stop depth ts
  generalize scan stop depth ts = r at scans
  induction scans generalizing us with
  | ends last =>
    obtain ⟨r', last', alike⟩ := last.alike h stop'
    rwa [last'.scan_eq]
  | passes step _ ih =>
    obtain ⟨passed', rest', step', passed, behind⟩ := step.alike h
    rw [step'.scan_eq]
    exact (ih behind).map fun alike => prepend_alike passed alike

end Suffix

/-- The interiors that are found have the layouts of what they are found in. -/
theorem Parser.suffix_alike {s s' : TokenStream} (h : s.Respaced s') :
    Alike (fun x x' => x.Alike x' ∧ Respaced x.interior x'.interior) (suffix.run s)
      (suffix.run s') := by
  rw [suffix, run_bind_of_ok run_get, run_bind_of_ok run_get]
  have scans := Suffix.scan_alike h.ahead.relaid s.stop s'.stop 0
  generalize scan : Suffix.scan s.stop 0 s.ahead = r, scan' : Suffix.scan s'.stop 0 s'.ahead = r'
    at scans ⊢
  cases scans with
  | error fails => exact .error fails
  | ok related =>
    have ahead := Suffix.append_of_scan scan
    have ahead' := Suffix.append_of_scan scan'
    have rest := h.ahead.of_suffix ⟨_, ahead⟩ ⟨_, ahead'⟩ related.2.length_eq.symm
    rw [Suffix.tokens, List.append_assoc] at ahead ahead'
    have interior := h.ahead.of_prefix ⟨_, ahead⟩ ⟨_, ahead'⟩ related.1.interior.length_eq.symm
    exact .ok ⟨related.1, interior⟩ ⟨rest, h.warnings⟩

end ComponentMarkup
