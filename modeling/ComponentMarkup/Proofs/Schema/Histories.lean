import ComponentMarkup.Schema.Registry
import Mathlib.Data.List.Nodup

/-!
# Histories of a registry

A registry grows by changes, of which any may fail. What it knows in the end can be told from the
changes that did not fail: the types that were registered, and the targets that were given to names.

## Main definitions

* `Path.IsFirst` — the first segment of a path.
* `Change` — a type or an alias that is to be added.
* `Registry.history` — a registry after changes, the failing ones included.
* `Registry.Reflects` — what a registry knows of the changes that made it.
* `RegistryData.Changes` — an action that does nothing to a registry but change it.

## Main statements

* `Registry.outcome` — a change is made as it is asked for, or changes nothing.
* `Registry.lookup?_of_type?_eq_none` — the first segment of a path that is not registered is
  replaced.
* `Registry.reflects_history` — a registry knows of the changes that made it, whatever they were.
* `RegistryData.exists_history_of_build` — a registry from plain data was made by changes, too.
-/

namespace ComponentMarkup

/-! ## First segments -/

namespace Path

/-- A path cut behind its first segment, which no double colon comes in front of. -/
structure IsFirst (path head rest : String) : Prop where
  append : path = head ++ rest
  behind : rest = "" ∨ ∃ tail, rest = "::" ++ tail
  first : ∀ u v, path = u ++ "::" ++ v → head.length ≤ u.length

/-- A path without a double colon. -/
def IsSegment (path : String) : Prop := ∀ u v, path ≠ u ++ "::" ++ v

/-- What stands behind the first segment, with the double colon in front of it. -/
def behind : Option (List Char) → List Char
  | none => []
  | some tail => ':' :: ':' :: tail

theorem partition_append (cs : List Char) :
    (partition cs).1 ++ behind (partition cs).2 = cs := by
  fun_induction partition cs with
  | case1 => rfl
  | case2 cs => rfl
  | case3 c cs _ head tail parts ih => simpa [parts] using ih

theorem length_partition_le {cs u v : List Char} (h : cs = u ++ ':' :: ':' :: v) :
    (partition cs).1.length ≤ u.length := by
  fun_induction partition cs generalizing u with
  | case1 => simp at h
  | case2 cs => simp
  | case3 c cs other head tail parts ih =>
    cases u with
    | nil =>
      obtain ⟨rfl, rfl⟩ := List.cons.inj h
      exact absurd rfl (other v rfl)
    | cons d u =>
      have := ih (List.cons.inj h).2
      simp only [parts] at this
      simpa using this

theorem partition_eq_none_iff {cs : List Char} :
    (partition cs).2 = none ↔ ∀ u v, cs ≠ u ++ ':' :: ':' :: v := by
  have parts := partition_append cs
  constructor
  · intro none u v h
    have bound := length_partition_le h
    have := congrArg List.length (parts.trans h)
    simp only [none, behind, List.append_nil, List.length_append, List.length_cons] at this
    omega
  · intro h
    cases tail : (partition cs).2 with
    | none => rfl
    | some tail =>
      rw [tail] at parts
      exact absurd parts.symm (h _ _)

theorem isFirst_partition (path : String) :
    IsFirst path (.ofList (partition path.toList).1)
      (.ofList (behind (partition path.toList).2)) where
  append := by rw [← String.ofList_append, partition_append, String.ofList_toList]
  behind := by
    cases (partition path.toList).2 with
    | none => exact .inl rfl
    | some tail => exact .inr ⟨.ofList tail, by rw [← String.toList_inj]; simp [Path.behind]⟩
  first u v h := by
    have : path.toList = u.toList ++ ':' :: ':' :: v.toList := by simp [h]
    rw [String.length_ofList, ← String.length_toList]
    exact length_partition_le this

theorem isSegment_iff {path : String} :
    IsSegment path ↔ (partition path.toList).2 = none := by
  rw [partition_eq_none_iff]
  constructor
  · intro h u v parts
    refine h (.ofList u) (.ofList v) ?_
    rw [← String.toList_inj, parts]
    simp
  · intro h u v parts
    exact h u.toList v.toList (by simp [parts])

end Path

/-! ## Changes -/

/-- The kinds that a type can be asked to have without a schema. -/
inductive KindName where
  | component
  | properties
  | plain
deriving DecidableEq, Repr

namespace KindName

def text : KindName → String
  | component => "component"
  | properties => "properties"
  | plain => "plain"

/-- A component does not come without its properties. -/
def kind : KindName → Except RegistryError TypeKind
  | component => .error .componentKind
  | properties => .ok .properties
  | plain => .ok .plain

theorem ofName?_text (k : KindName) : TypeKind.ofName? k.text = some k.kind := by
  cases k <;> rfl

end KindName

/-- What is asked of a registry to add. -/
inductive Change where
  | addComponent (path : String) (properties : Schema)
  | addType (path : String) (kind : KindName)
  | addAlias (name path : String)
deriving DecidableEq

namespace Change

open RegistryData (Building raising)

def perform : Change → Building Unit
  | addComponent path properties => RegistryData.addType path (.component properties)
  | addType path kind => do RegistryData.addType path (← raising kind.kind)
  | addAlias name path => RegistryData.addAlias name path

/-- The type that is to be added. -/
def info? : Change → Option TypeInfo
  | addComponent path properties => some ⟨Path.normalize path, .component properties⟩
  | addType path kind => kind.kind.toOption.map fun kind => ⟨Path.normalize path, kind⟩
  | addAlias _ _ => none

/-- The name that is to be added, with its target. -/
def target? : Change → Option (String × String)
  | addAlias name path => some (Path.normalize name, Path.normalize path)
  | _ => none

/-- A type can be added once, and a name if it is one segment. -/
def Admissible (types : List TypeInfo) : Change → Prop
  | addAlias name _ => Path.IsSegment (Path.normalize name)
  | c => ∃ info, c.info? = some info ∧ ∀ t ∈ types, t.path ≠ info.path

section

variable {c : Change} {info : TypeInfo}

theorem admissible_iff (h : c.info? = some info) (types : List TypeInfo) :
    c.Admissible types ↔ ∀ t ∈ types, t.path ≠ info.path := by
  cases c with
  | addComponent | addType => simp [Admissible, h]
  | addAlias => cases h

theorem target?_eq_none (h : c.info? = some info) : c.target? = none := by
  cases c with
  | addComponent | addType => rfl
  | addAlias => cases h

end

end Change

namespace Registry

variable {r : Registry} {c : Change}

/-- The registry after a change, be it made or failed. -/
def after (r : Registry) (c : Change) : Registry :=
  match c.perform.run r with
  | .ok _ r' => r'
  | .error _ r' => r'

def accepts (r : Registry) (c : Change) : Bool :=
  match c.perform.run r with
  | .ok _ _ => true
  | .error _ _ => false

theorem type?_eq_none_iff {path : String} :
    r.type? path = none ↔ ∀ t ∈ r.types, t.path ≠ path := by
  simp [type?]

theorem run_raising {α : Type} (result : Except RegistryError α) (r : Registry) :
    (RegistryData.raising result).run r =
      match result with
      | .ok a => .ok a r
      | .error e => .error e r := by
  cases result <;> rfl

theorem run_addType (r : Registry) (path : String) (kind : TypeKind) :
    (RegistryData.addType path kind).run r =
      if r.type? (Path.normalize path) = none then
        .ok () { r with types := r.types ++ [⟨Path.normalize path, kind⟩] }
      else .error (.typeTwice (Path.normalize path)) r := by
  unfold RegistryData.addType add
  cases found : r.type? (Path.normalize path) <;>
    simp [EStateM.run_bind, run_raising, found]

theorem run_addAlias (r : Registry) (name path : String) :
    (RegistryData.addAlias name path).run r =
      if (Path.partition (Path.normalize name).toList).2 = none then
        .ok () { r with aliases := (Path.normalize name, Path.normalize path) :: r.aliases }
      else .error (.aliasOfSegments (Path.normalize name)) r := by
  unfold RegistryData.addAlias addAlias
  cases found : (Path.partition (Path.normalize name).toList).2 <;>
    simp [EStateM.run_bind, run_raising, found]

/-- What comes of a change: it is made as it is asked for if that is admissible, or it fails and
changes nothing. -/
inductive Outcome (r : Registry) (c : Change) : Prop where
  | made : c.Admissible r.types → r.accepts c = true →
      r.after c = ⟨r.types ++ c.info?.toList, c.target?.toList ++ r.aliases⟩ → Outcome r c
  | failed : ¬ c.Admissible r.types → r.accepts c = false → r.after c = r → Outcome r c

theorem outcome_of_run {allowed : Prop} [Decidable allowed] {e : RegistryError} {r' : Registry}
    (run : c.perform.run r = if allowed then .ok () r' else .error e r)
    (admissible : c.Admissible r.types ↔ allowed)
    (made : r' = ⟨r.types ++ c.info?.toList, c.target?.toList ++ r.aliases⟩) : Outcome r c := by
  by_cases h : allowed
  · rw [if_pos h] at run
    refine .made (admissible.2 h) ?_ ?_
    · rw [accepts, run]
    · rw [after, run, made]
  · rw [if_neg h] at run
    refine .failed (mt admissible.1 h) ?_ ?_
    · rw [accepts, run]
    · rw [after, run]

theorem outcome_of_run_addType {path : String} {kind : TypeKind}
    (run : c.perform.run r = (RegistryData.addType path kind).run r)
    (info : c.info? = some ⟨Path.normalize path, kind⟩) : Outcome r c := by
  rw [run_addType] at run
  apply outcome_of_run run
  · rw [Change.admissible_iff info, type?_eq_none_iff]
  · rw [info, Change.target?_eq_none info]
    rfl

theorem outcome (r : Registry) (c : Change) : Outcome r c := by
  cases c with
  | addComponent path properties => exact outcome_of_run_addType rfl rfl
  | addType path kind =>
    cases kind with
    | component =>
      refine .failed ?_ rfl rfl
      rintro ⟨info, asked, -⟩
      cases asked
    | properties => exact outcome_of_run_addType rfl rfl
    | plain => exact outcome_of_run_addType rfl rfl
  | addAlias name path =>
    have run : (Change.addAlias name path).perform.run r = _ := run_addAlias r name path
    apply outcome_of_run run
    · exact Path.isSegment_iff
    · simp [Change.info?, Change.target?]

/-! ### Paths that are looked up -/

theorem lookup?_of_type? {path : String} {t : TypeInfo}
    (h : r.type? (Path.normalize path) = some t) : r.lookup? path = some t := by
  have unchanged : r.resolve path = Path.normalize path := by simp [resolve, h]
  rw [lookup?, unchanged, h]

/-- A path that is not registered has its first segment replaced, and what comes of that has to be
registered as it stands. -/
theorem lookup?_of_type?_eq_none {path : String} (h : r.type? (Path.normalize path) = none) :
    ∃ head rest, Path.IsFirst (Path.normalize path) head rest ∧
      r.lookup? path = (r.aliases.lookup head).bind fun target => r.type? (target ++ rest) := by
  refine ⟨_, _, Path.isFirst_partition _, ?_⟩
  unfold lookup? resolve
  cases cut : Path.partition (Path.normalize path).toList with
  | mk head tail =>
    cases found : r.aliases.lookup (.ofList head) with
    | none => simp [cut, found, h]
    | some target =>
      cases tail with
      | none => simp [cut, found, h, Path.behind]
      | some tail =>
        have replaced :
            target ++ .ofList (Path.behind (some tail)) = target ++ "::" ++ .ofList tail := by
          rw [← String.toList_inj]
          simp [Path.behind]
        simp [cut, found, h, replaced]

/-! ## Histories -/

/-- The registry after changes one after the other, be they made or failed. -/
def history (r : Registry) (cs : List Change) : Registry := cs.foldl after r

theorem history_append (r : Registry) (cs ds : List Change) :
    r.history (cs ++ ds) = (r.history cs).history ds := List.foldl_append

/-- The changes that do not fail. -/
def accepted (r : Registry) : List Change → List Change
  | [] => []
  | c :: cs => if r.accepts c then c :: (r.after c).accepted cs else (r.after c).accepted cs

/-- The types that are registered by changes. -/
def registrations (cs : List Change) : List TypeInfo :=
  (empty.accepted cs).filterMap Change.info?

/-- The names that are made to stand for paths by changes, each time with the target. -/
def targets (cs : List Change) : List (String × String) :=
  (empty.accepted cs).filterMap Change.target?

/-- All that is accepted is kept, the targets with the latest one first. -/
theorem history_eq (r : Registry) (cs : List Change) :
    r.history cs = ⟨r.types ++ (r.accepted cs).filterMap Change.info?,
      ((r.accepted cs).filterMap Change.target?).reverse ++ r.aliases⟩ := by
  induction cs generalizing r with
  | nil => simp [history, accepted]
  | cons c cs ih =>
    rw [history, List.foldl_cons, ← history, ih, accepted]
    cases r.outcome c with
    | made _ accepts after =>
      rw [if_pos accepts, after]
      cases info : c.info? <;> cases target : c.target? <;> simp [info, target]
    | failed _ accepts after => simp [accepts, after]

theorem nodup_types_after (distinct : (r.types.map TypeInfo.path).Nodup) (c : Change) :
    ((r.after c).types.map TypeInfo.path).Nodup := by
  cases r.outcome c with
  | made admissible _ after =>
    rw [after]
    cases info : c.info? with
    | none => simpa using distinct
    | some info' =>
      have new := (Change.admissible_iff info r.types).1 admissible
      simpa [List.nodup_append, distinct] using new
  | failed _ _ after => rwa [after]

theorem nodup_types_history (distinct : (r.types.map TypeInfo.path).Nodup) (cs : List Change) :
    ((r.history cs).types.map TypeInfo.path).Nodup := by
  induction cs generalizing r with
  | nil => exact distinct
  | cons c cs ih => exact ih (nodup_types_after distinct c)

theorem type?_of_mem (distinct : (r.types.map TypeInfo.path).Nodup) {t : TypeInfo}
    (ht : t ∈ r.types) : r.type? t.path = some t := by
  cases found : r.type? t.path with
  | none => exact absurd rfl (type?_eq_none_iff.1 found t ht)
  | some u =>
    have same : u.path = t.path := by simpa using List.find?_some found
    rw [List.inj_on_of_nodup_map distinct (List.mem_of_find?_eq_some found) ht same]

/-- What a registry knows of the changes that made it, and of what comes later. -/
structure Reflects (r : Registry) (cs : List Change) : Prop where
  /-- A change is made or changes nothing. -/
  failed : ∀ c, r.accepts c = false → r.after c = r
  /-- No path is registered twice, and no name of segments is given a target. -/
  accepts_iff : ∀ c, r.accepts c = true ↔ c.Admissible (registrations cs)
  size : r.size = (registrations cs).length
  /-- What is registered is found from then on, by all spellings of its path. -/
  registered : ∀ t ∈ registrations cs, ∀ path, Path.normalize path = t.path →
    ∀ later, (r.history later).lookup? path = some t
  /-- Any other path is what the last target of its first segment makes of it, if that is known. -/
  replaced : ∀ path, (∀ t ∈ registrations cs, t.path ≠ Path.normalize path) →
    ∃ head rest, Path.IsFirst (Path.normalize path) head rest ∧
      r.lookup? path = ((targets cs).reverse.lookup head).bind fun target =>
        (registrations cs).find? (·.path = target ++ rest)

/-- A registry knows of its changes, whatever they were and in whatever order they came. -/
theorem reflects_history (cs : List Change) : (empty.history cs).Reflects cs := by
  have empty_distinct : (empty.types.map TypeInfo.path).Nodup := List.nodup_nil
  have types : (empty.history cs).types = registrations cs := by
    rw [history_eq]
    rfl
  have aliases : (empty.history cs).aliases = (targets cs).reverse := by
    rw [history_eq]
    exact List.append_nil _
  refine ⟨?_, ?_, ?_, ?_, ?_⟩
  · intro c fails
    cases (empty.history cs).outcome c with
    | made _ accepts _ => simp [fails] at accepts
    | failed _ _ after => exact after
  · intro c
    rw [← types]
    cases (empty.history cs).outcome c with
    | made admissible accepts _ => simp [admissible, accepts]
    | failed inadmissible accepts _ => simp [inadmissible, accepts]
  · rw [size, types]
  · intro t ht path spelled later
    have kept : t ∈ ((empty.history cs).history later).types := by
      rw [history_eq, types]
      exact List.mem_append_left _ ht
    have distinct : (((empty.history cs).history later).types.map TypeInfo.path).Nodup :=
      nodup_types_history (nodup_types_history empty_distinct cs) later
    apply lookup?_of_type?
    rw [spelled]
    exact type?_of_mem distinct kept
  · intro path free
    rw [← types, ← type?_eq_none_iff] at free
    obtain ⟨head, rest, isFirst, found⟩ := lookup?_of_type?_eq_none free
    refine ⟨head, rest, isFirst, ?_⟩
    rw [found, aliases, ← types]
    rfl

/-- The target of an alias is not expanded again. -/
example :
    let r := empty.history [.addType "c" .plain, .addAlias "b" "c", .addAlias "a" "b"]
    r.lookup? "b" = some ⟨"c", .plain⟩ ∧ r.lookup? "a" = none := by
  decide

end Registry

namespace RegistryData

/-! ## Registries from plain data -/

/-- An action that does nothing to a registry but change it, be the action done or failed. -/
def Changes {α : Type} (m : Building α) : Prop :=
  ∀ r, ∃ cs, match m.run r with
    | .ok _ r' | .error _ r' => r' = r.history cs

namespace Changes

variable {α β : Type}

theorem bind {m : Building α} {f : α → Building β} (hm : Changes m) (hf : ∀ a, Changes (f a)) :
    Changes (m >>= f) := by
  intro r
  obtain ⟨cs, first⟩ := hm r
  rw [EStateM.run_bind]
  cases run : m.run r with
  | error e r' =>
    rw [run] at first
    exact ⟨cs, first⟩
  | ok a r' =>
    obtain ⟨ds, more⟩ := hf a r'
    simp only [run] at first
    rw [first] at more ⊢
    exact ⟨cs ++ ds, by rwa [Registry.history_append]⟩

theorem raising (result : Except RegistryError α) : Changes (raising result) := by
  intro r
  rw [Registry.run_raising]
  cases result <;> exact ⟨[], rfl⟩

theorem perform (c : Change) : Changes c.perform := by
  intro r
  refine ⟨[c], ?_⟩
  have after : r.history [c] = r.after c := rfl
  rw [after, Registry.after]
  cases c.perform.run r <;> rfl

theorem forM {f : α → Building Unit} (hf : ∀ a, Changes (f a)) (as : List α) :
    Changes (as.forM f) := by
  induction as with
  | nil => exact fun r => ⟨[], rfl⟩
  | cons a as ih => exact (hf a).bind fun _ => ih

end Changes

theorem changes_addComponent (path : String) (data : ComponentData) :
    Changes (addComponent path data) := by
  refine (Changes.raising _).bind fun fields => (Changes.raising _).bind fun schema => ?_
  exact .perform (.addComponent path schema)

theorem changes_building (data : RegistryData) : Changes data.building := by
  refine .bind ?_ fun _ => .bind ?_ fun _ => ?_
  · exact .forM (fun (path, component) => changes_addComponent path component) _
  · exact .forM (fun path => .perform (.addType path .plain)) _
  · exact .forM (fun (name, path) => .perform (.addAlias name path)) _

/-- What is built from plain data has come of changes. -/
theorem exists_history_of_build {data : RegistryData} {r : Registry} (h : data.build = .ok r) :
    ∃ cs, r = Registry.empty.history cs := by
  obtain ⟨cs, built⟩ := changes_building data .empty
  refine ⟨cs, ?_⟩
  unfold build at h
  cases run : data.building.run .empty with
  | error e r' => simp [run] at h
  | ok u r' =>
    simp only [run, Except.ok.injEq] at h built
    rw [← h, built]

end RegistryData

end ComponentMarkup
