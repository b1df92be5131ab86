import ComponentMarkup.Proofs.Parsing.Contracts
import ComponentMarkup.Proofs.Parsing.Suffixes

/-!
# Failures of parsers

Parsers fail by rejecting what they read. The other failures, which stand for a group that is asked
for where none can be, do not occur: a group is only asked for where a bracket opens one.

## Main definitions

* `Parser.Reported` — an outcome that is not such a failure.
* `Parser.rejecting` — the contract to fail like this only.

## Main statements

* `Parser.group_reported` — at a bracket that opens a group.
* `Parser.suffix_reported`, `Parser.interior_reported` — the rest of a tag and its interior.
* `Parser.component_reported` — a whole tag.
-/

namespace ComponentMarkup

open Source (Location)

/-- The failure to read brackets, from the first of them on, is explained by the brackets. -/
theorem Parser.exists_rejected_of_groupFailure {t : Token} {ts : List Token} {fault : GroupFault}
    (opens : t.opens?.isSome = true) (h : Group.read (t :: ts) = .error fault) (stop : Location) :
    ∃ e, groupFailure stop fault (t :: ts) = .rejected e := by
  obtain ⟨m, opens⟩ := Option.isSome_iff_exists.1 opens
  have same := Group.fault_of_read h opens
  cases fault with
  | stray found => exact absurd h Group.read_ne_stray
  | mismatch due found =>
    refine ⟨.unexpectedToken s!"`{due.char}`" found, ?_⟩
    simp only [groupFailure, same]
  | notOpened | unclosed =>
    refine ⟨.unclosedDelimiter t stop, ?_⟩
    simp only [groupFailure, same]

namespace Parser

variable {α β : Type} {s s' : TokenStream}

/-- If it is a failure, then one that rejects what was read. -/
inductive Reported : EStateM.Result Failure TokenStream α → Prop where
  | ok (a : α) (s : TokenStream) : Reported (.ok a s)
  | rejected (e : ParseError) (s : TokenStream) : Reported (.error (.rejected e) s)

theorem Reported.bind {p : Parser α} {f : α → Parser β} (hp : Reported (p.run s))
    (hf : ∀ a s', p.run s = .ok a s' → Reported ((f a).run s')) :
    Reported ((p >>= f).run s) := by
  rw [run_bind]
  generalize p.run s = r at hp hf
  cases hp with
  | ok a s' => exact hf a s' rfl
  | rejected e s' => exact .rejected e s'

theorem group_reported (h : s.ahead.head?.any (·.opens?.isSome) = true) :
    Reported (group.run s) := by
  rw [group, run_bind_of_ok run_get]
  rcases s with ⟨_ | ⟨t, ts⟩, stop, warnings, journal⟩
  · cases h
  · cases read : Group.read (t :: ts) with
    | ok r => exact .ok ..
    | error fault =>
      obtain ⟨e, rejected⟩ := exists_rejected_of_groupFailure h read stop
      simp only [rejected]
      exact .rejected ..

/-- Whatever comes next, a failure rejects it. -/
def rejecting : Contract where
  ahead _ := True
  failure e := ∃ d, e = .rejected d
  behind _ _ := trivial
  rejects _ _ _ := ⟨_, rfl⟩
  group _ _ _ := trivial
  noGroup _ opens run := by
    have reported := group_reported opens
    rw [run] at reported
    cases reported with
    | rejected d => exact ⟨d, rfl⟩

theorem Keeps.reported {r : EStateM.Result Failure TokenStream α} (h : Keeps rejecting r) :
    Reported r := by
  cases h with
  | ok => exact .ok ..
  | error fails =>
    obtain ⟨d, rfl⟩ := fails
    exact .rejected ..

theorem interior_reported {config : Config} {span : Source.Span} :
    Reported ((interior config span).run s) :=
  (interior_keeps trivial).reported

/-! ## Tags -/

theorem exists_rejected_of_scan {stop : Location} {depth : Nat} {ts : List Token} {e : Failure}
    (h : Suffix.scan stop depth ts = .error e) : ∃ d, e = .rejected d := by
  have scans := Suffix.scans_scan stop depth ts
  generalize Suffix.scan stop depth ts = r at h scans
  induction scans with
  | ends ends =>
    cases ends with
    | opening | selfClosing => cases h
    | noTokens =>
      cases h
      exact ⟨_, rfl⟩
    | noGroup opens read =>
      cases h
      exact exists_rejected_of_groupFailure opens read stop
  | passes _ _ ih => exact ih (map_eq_error.1 h)

theorem suffix_reported : Reported (suffix.run s) := by
  rw [suffix, run_bind_of_ok run_get]
  split
  case h_1 e scan =>
    obtain ⟨d, rfl⟩ := exists_rejected_of_scan scan
    exact .rejected ..
  case h_2 => exact .ok ..

theorem component_reported {config : Config} : Reported ((component config).run s) := by
  have opener : Reported ((mark .lessThan).run s) :=
    (mark_keeps trivial rfl rfl).reported
  refine opener.bind fun opener _ _ => suffix_reported.bind fun suffix s₁ _ => ?_
  split
  case h_1 => exact .rejected ..
  case h_2 slash isSlash =>
    have inside : Reported ((interior config (opener.spanTo suffix.closer)).run
        ⟨suffix.interior, slash.start, [], []⟩) := interior_reported
    obtain ⟨s₂, run, -⟩ := run_within (p := interior config (opener.spanTo suffix.closer))
      suffix.interior slash.start s₁
    generalize (interior config (opener.spanTo suffix.closer)).run
      ⟨suffix.interior, slash.start, [], []⟩ = r at inside run
    cases inside with
    | ok c inner =>
      rw [run_bind_of_ok run]
      exact .ok ..
    | rejected e inner =>
      rw [run_bind_of_ok run]
      simp only [Failure.atSlash]
      split <;> exact .rejected ..

end Parser

end ComponentMarkup
