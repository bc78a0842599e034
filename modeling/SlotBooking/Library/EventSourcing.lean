import Mathlib.Data.List.Basic

/-! Event-sourced aggregates. A log of events is folded into a state; the latest state
and now and then a snapshot are kept beside it, each with the number of events behind it.
A load starts from the snapshot and folds only what came later. -/

universe u v w x

namespace EventSourcing

variable {S : Type u} {E : Type v} {T : Type w} {F : Type x}

/-- Fold events into a state, which is absent before the first event. -/
def fold (step : Option S → E → Option S) (start : Option S) (events : List E) : Option S :=
  events.foldl step start

@[simp] theorem fold_nil (step : Option S → E → Option S) (start : Option S) :
    fold step start [] = start := rfl

@[simp] theorem fold_cons (step : Option S → E → Option S) (start : Option S) (e : E)
    (events : List E) : fold step start (e :: events) = fold step (step start e) events := rfl

theorem fold_append (step : Option S → E → Option S) (start : Option S) (xs ys : List E) :
    fold step start (xs ++ ys) = fold step (fold step start xs) ys := by
  simp only [fold, List.foldl_append]

/-- A view of states and events under which the steps correspond carries folds over. -/
theorem fold_map {step : Option S → E → Option S} {step' : Option T → F → Option T}
    {f : S → T} {g : E → F} (step_map : ∀ o e, (step o e).map f = step' (o.map f) (g e))
    (start : Option S) (events : List E) :
    (fold step start events).map f = fold step' (start.map f) (events.map g) := by
  induction events generalizing start with
  | nil => rfl
  | cons e events ih => rw [fold_cons, ih, step_map, List.map_cons, fold_cons]

theorem fold_preserves {step : Option S → E → Option S} {P : S → Prop} {events : List E}
    (keeps : ∀ e ∈ events, ∀ o t, (∀ s, o = some s → P s) → step o e = some t → P t)
    {start : Option S} {t : S} (initial : ∀ s, start = some s → P s)
    (folded : fold step start events = some t) : P t := by
  induction events generalizing start with
  | nil => exact initial t folded
  | cons e events ih =>
    refine ih (fun e' he' => keeps e' (List.mem_cons_of_mem e he')) ?_ folded
    intro s hs
    exact keeps e List.mem_cons_self start s initial hs

/-- What is kept of one aggregate: its log, and two states with their revisions. -/
structure Aggregate (S : Type u) (E : Type v) where
  log : List E
  latest : Option (S × Nat)
  snapshot : Option (S × Nat)

namespace Aggregate

def empty : Aggregate S E := ⟨[], none, none⟩

def map (f : S → T) (g : E → F) (a : Aggregate S E) : Aggregate T F :=
  { log := a.log.map g
    latest := a.latest.map (fun p => (f p.1, p.2))
    snapshot := a.snapshot.map (fun p => (f p.1, p.2)) }

/-- Append events to an aggregate at revision `expected`, store the next state, and take a
snapshot at each multiple of `interval`. -/
def commit (interval expected : Nat) (events : List E) (next : S) (a : Aggregate S E) :
    Aggregate S E :=
  let revision := expected + events.length
  { log := a.log ++ events
    latest := some (next, revision)
    snapshot := if revision % interval = 0 then some (next, revision) else a.snapshot }

/-- Load from the snapshot and the later events, or from all events. -/
def load (step : Option S → E → Option S) (a : Aggregate S E) : Option (S × Nat) :=
  match a.snapshot with
  | some (s, m) =>
    (fold step (some s) (a.log.drop m)).map (fun t => (t, m + (a.log.drop m).length))
  | none => (fold step none a.log).map (fun t => (t, a.log.length))

/-- The two stored states are the folds of what they stand for. -/
structure Faithful (step : Option S → E → Option S) (a : Aggregate S E) : Prop where
  latest : a.latest = (fold step none a.log).map (fun s => (s, a.log.length))
  snapshot : ∀ s m, a.snapshot = some (s, m) →
    m ≤ a.log.length ∧ fold step none (a.log.take m) = some s

variable {step : Option S → E → Option S}

theorem faithful_empty : Faithful step (empty : Aggregate S E) where
  latest := rfl
  snapshot := by intro s m h; cases h

theorem map_commit (f : S → T) (g : E → F) (interval expected : Nat) (events : List E)
    (next : S) (a : Aggregate S E) :
    (a.commit interval expected events next).map f g =
      (a.map f g).commit interval expected (events.map g) (f next) := by
  simp only [map, commit, List.map_append, List.length_map, Option.map_some]
  split <;> rfl

theorem map_eq_self {f : S → S} {g : E → E} {a : Aggregate S E} (log : ∀ e ∈ a.log, g e = e)
    (latest : ∀ s n, a.latest = some (s, n) → f s = s)
    (snapshot : ∀ s n, a.snapshot = some (s, n) → f s = s) : a.map f g = a := by
  have pairs : ∀ o : Option (S × Nat), (∀ s n, o = some (s, n) → f s = s) →
      o.map (fun p => (f p.1, p.2)) = o := by
    intro o fixed
    cases o with
    | none => rfl
    | some p => rw [Option.map_some, fixed p.1 p.2 rfl]
  have events : a.log.map g = a.log := by
    conv_rhs => rw [← List.map_id a.log]
    exact List.map_congr_left log
  unfold map
  rw [events, pairs _ latest, pairs _ snapshot]

/-- A commit whose state is the fold of the log it leaves keeps an aggregate faithful. -/
theorem Faithful.commit {a : Aggregate S E} (faithful : Faithful step a) (interval : Nat)
    {events : List E} {next : S} (folded : fold step none (a.log ++ events) = some next) :
    Faithful step (a.commit interval a.log.length events next) where
  latest := by
    simp only [Aggregate.commit, folded, Option.map_some, List.length_append]
  snapshot := by
    intro s m h
    simp only [Aggregate.commit] at h ⊢
    split at h
    · cases h
      rw [← List.length_append, List.take_length]
      exact ⟨Nat.le_refl _, folded⟩
    · obtain ⟨bound, replayed⟩ := faithful.snapshot s m h
      rw [List.length_append, List.take_append_of_le_length bound]
      exact ⟨by omega, replayed⟩

theorem Faithful.resume {a : Aggregate S E} (faithful : Faithful step a) {s : S} {m : Nat}
    (h : a.snapshot = some (s, m)) :
    fold step (some s) (a.log.drop m) = fold step none a.log := by
  rw [← (faithful.snapshot s m h).2, ← fold_append, List.take_append_drop]

variable (step) in
/-- What a load needs of the snapshot, whatever state it was taken in. -/
def Resumes (a : Aggregate S E) : Prop :=
  ∀ s m, a.snapshot = some (s, m) →
    m ≤ a.log.length ∧ fold step (some s) (a.log.drop m) = fold step none a.log

theorem Faithful.resumes {a : Aggregate S E} (faithful : Faithful step a) : Resumes step a :=
  fun s m h => ⟨(faithful.snapshot s m h).1, faithful.resume h⟩

theorem resumes_empty : Resumes step (empty : Aggregate S E) := faithful_empty.resumes

/-- Snapshot and delta load what a full replay gives, at the length of the log. -/
theorem Resumes.load_eq {a : Aggregate S E} (resumes : Resumes step a) :
    a.load step = (fold step none a.log).map (fun t => (t, a.log.length)) := by
  unfold load
  split
  · rename_i s m h
    obtain ⟨bound, resumed⟩ := resumes s m h
    rw [resumed, List.length_drop, Nat.add_sub_cancel' bound]
  · rfl

theorem Resumes.commit {a : Aggregate S E} (resumes : Resumes step a) (interval : Nat)
    {expected : Nat} {events : List E} {next : S}
    (folded : fold step none (a.log ++ events) = some next)
    (bound : expected + events.length ≤ (a.log ++ events).length)
    (resumed : fold step (some next) ((a.log ++ events).drop (expected + events.length)) =
      some next) : Resumes step (a.commit interval expected events next) := by
  intro s m h
  simp only [Aggregate.commit] at h ⊢
  split at h
  · cases h
    exact ⟨bound, resumed.trans folded.symm⟩
  · obtain ⟨within, replayed⟩ := resumes s m h
    refine ⟨by rw [List.length_append]; omega, ?_⟩
    rw [List.drop_append_of_le_length within, fold_append, replayed, fold_append]

theorem Faithful.load_eq {a : Aggregate S E} (faithful : Faithful step a) :
    a.load step = (fold step none a.log).map (fun t => (t, a.log.length)) :=
  faithful.resumes.load_eq

theorem Faithful.load_latest {a : Aggregate S E} (faithful : Faithful step a) :
    a.load step = a.latest := by
  rw [faithful.load_eq, faithful.latest]

end Aggregate

end EventSourcing
