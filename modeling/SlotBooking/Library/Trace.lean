import Mathlib.Data.List.Induction

/-! Runs of a deterministic system, and conditions which each of their steps has to meet. -/

universe u v

namespace Trace

variable {S : Type u} {A : Type v} (step : S → A → S)

/-- Every step of the run meets the condition in the state it starts from. -/
def Throughout (P : S → A → Prop) : List A → S → Prop
  | [], _ => True
  | a :: rest, s => P s a ∧ Throughout P rest (step s a)

/-- The property holds in every state of the run, the first one included. -/
def Always (I : S → Prop) (as : List A) (s : S) : Prop := ∀ n, I ((as.take n).foldl step s)

/-- The states of the run in order, the first and the last one included. -/
def states : List A → S → List S
  | [], s => [s]
  | a :: rest, s => s :: states rest (step s a)

/-- A step of the run meets the first condition, and every later one the second. -/
def Since (P Q : S → A → Prop) (as : List A) (s : S) : Prop :=
  ∃ front a back, as = front ++ a :: back ∧ P (front.foldl step s) a ∧
    Throughout step Q back (step (front.foldl step s) a)

/-- How many steps of the run meet the condition. -/
def count (p : S → A → Bool) : List A → S → Nat
  | [], _ => 0
  | a :: rest, s => (if p s a then 1 else 0) + count p rest (step s a)

variable {step}

theorem states_snoc {as : List A} {a : A} {s : S} :
    states step (as ++ [a]) s = states step as s ++ [step (as.foldl step s) a] := by
  induction as generalizing s with
  | nil => rfl
  | cons b rest ih => simp [states, ih]

/-- A relation between what has happened and the present which every step keeps. -/
theorem history {R : List A → S → Prop} {s : S} (initial : R [] s)
    (keeps : ∀ as a, R as (as.foldl step s) → R (as ++ [a]) (step (as.foldl step s) a))
    (as : List A) : R as (as.foldl step s) := by
  induction as using List.reverseRecOn with
  | nil => exact initial
  | append_singleton as a ih =>
    rw [List.foldl_append]
    exact keeps as a ih

/-- A relation between the past and the present which every step keeps. -/
theorem states_related {R : List S → S → Prop} {s : S}
    (keeps : ∀ past s a, R past s → R (past ++ [step s a]) (step s a)) (initial : R [s] s)
    (as : List A) : R (states step as s) (as.foldl step s) := by
  refine history (R := fun as now => R (states step as s) now) initial (fun as a ih => ?_) as
  rw [states_snoc]
  exact keeps _ _ a ih

theorem throughout_append {P : S → A → Prop} {as bs : List A} {s : S} :
    Throughout step P (as ++ bs) s ↔
      Throughout step P as s ∧ Throughout step P bs (as.foldl step s) := by
  induction as generalizing s with
  | nil => exact (true_and _).symm.to_iff
  | cons a rest ih =>
    simp only [List.cons_append, Throughout, List.foldl_cons, ih, and_assoc]

theorem always_nil {I : S → Prop} {s : S} : Always step I [] s ↔ I s := by
  simp [Always]

theorem always_cons {I : S → Prop} {a : A} {rest : List A} {s : S} :
    Always step I (a :: rest) s ↔ I s ∧ Always step I rest (step s a) := by
  constructor
  · intro always
    exact ⟨always 0, fun n => always (n + 1)⟩
  · rintro ⟨here, later⟩ n
    cases n with
    | zero => exact here
    | succ n => exact later n

theorem Always.drop {I : S → Prop} {as bs : List A} {s : S} (always : Always step I (as ++ bs) s) :
    Always step I bs (as.foldl step s) := by
  induction as generalizing s with
  | nil => exact always
  | cons a rest ih => exact ih (always_cons.mp always).2

/-- What every step of the run keeps holds throughout, and so does all that it implies. -/
theorem always_of_invariant {K I : S → Prop} {as : List A} {s : S}
    (keeps : ∀ a ∈ as, ∀ s, K s → K (step s a)) (implies : ∀ s, K s → I s) (kept : K s) :
    Always step I as s := by
  induction as generalizing s with
  | nil => exact always_nil.mpr (implies s kept)
  | cons a rest ih =>
    refine always_cons.mpr ⟨implies s kept, ih ?_ (keeps a List.mem_cons_self s kept)⟩
    exact fun a' mem => keeps a' (List.mem_cons_of_mem a mem)

theorem Always.after {I : S → Prop} {as : List A} {s : S} (always : Always step I as s) :
    I (as.foldl step s) := by
  have last := always as.length
  rwa [List.take_length] at last

theorem throughout_of_invariant {K : S → Prop} {P : S → A → Prop} {as : List A} {s : S}
    (keeps : ∀ a ∈ as, ∀ s, K s → K (step s a)) (implies : ∀ a ∈ as, ∀ s, K s → P s a)
    (kept : K s) : Throughout step P as s := by
  induction as generalizing s with
  | nil => trivial
  | cons a rest ih =>
    refine ⟨implies a List.mem_cons_self s kept, ih ?_ ?_ (keeps a List.mem_cons_self s kept)⟩
    · exact fun a' mem => keeps a' (List.mem_cons_of_mem a mem)
    · exact fun a' mem => implies a' (List.mem_cons_of_mem a mem)

/-- Where every step which meets the condition keeps the property, it holds in every state of a run
of such steps. -/
theorem Throughout.always {K : S → Prop} {P : S → A → Prop} {as : List A} {s : S}
    (met : Throughout step P as s) (keeps : ∀ s a, K s → P s a → K (step s a)) (kept : K s) :
    Always step K as s := by
  induction as generalizing s with
  | nil => exact always_nil.mpr kept
  | cons a rest ih => exact always_cons.mpr ⟨kept, ih met.2 (keeps s a kept met.1)⟩

theorem Throughout.of_invariant {K : S → Prop} {P Q : S → A → Prop} {as : List A} {s : S}
    (met : Throughout step P as s) (keeps : ∀ s a, K s → P s a → K (step s a) ∧ Q s a)
    (kept : K s) : Throughout step Q as s := by
  induction as generalizing s with
  | nil => trivial
  | cons a rest ih =>
    obtain ⟨next, here⟩ := keeps s a kept met.1
    exact ⟨here, ih met.2 next⟩

/-- Where the condition on a step is exactly what keeps the property, the property holds in
every state of a run if and only if every step meets the condition. -/
theorem always_iff_throughout {K I : S → Prop} {P : S → A → Prop}
    (keeps : ∀ s a, K s → K (step s a)) (exact_ : ∀ s a, K s → I s → (I (step s a) ↔ P s a))
    {as : List A} {s : S} (kept : K s) (initial : I s) :
    Always step I as s ↔ Throughout step P as s := by
  induction as generalizing s with
  | nil => exact always_nil.trans (iff_of_true initial trivial)
  | cons a rest ih =>
    rw [always_cons]
    constructor
    · rintro ⟨_, later⟩
      have next : I (step s a) := later 0
      exact ⟨(exact_ s a kept initial).mp next, (ih (keeps s a kept) next).mp later⟩
    · rintro ⟨here, later⟩
      have next : I (step s a) := (exact_ s a kept initial).mpr here
      exact ⟨initial, (ih (keeps s a kept) next).mpr later⟩

section
variable {P Q : S → A → Prop} {as : List A} {a : A} {s : S}

theorem since_now (here : P (as.foldl step s) a) : Since step P Q (as ++ [a]) s :=
  ⟨as, a, [], rfl, here, trivial⟩

theorem Since.snoc (since : Since step P Q as s) (here : Q (as.foldl step s) a) :
    Since step P Q (as ++ [a]) s := by
  obtain ⟨front, b, back, rfl, first, rest⟩ := since
  refine ⟨front, b, back ++ [a], by simp, first, throughout_append.mpr ⟨rest, ?_, trivial⟩⟩
  simpa using here

end

/-- In a run through states with the property, what each step spends and what it leaves come to no
more than what was there and what the step brings. -/
theorem balance {I : S → Prop} {f : S → Nat} {p q : S → A → Bool} {as : List A} {s : S}
    (always : Always step I as s)
    (balanced : ∀ a ∈ as, ∀ s, I s → I (step s a) →
      (if q s a then 1 else 0) + f (step s a) ≤ f s + if p s a then 1 else 0) :
    count step q as s + f (as.foldl step s) ≤ f s + count step p as s := by
  induction as generalizing s with
  | nil => simp [count]
  | cons a rest ih =>
    obtain ⟨now, later⟩ := always_cons.mp always
    have here := balanced a List.mem_cons_self s now (later 0)
    have after := ih later (fun b mem => balanced b (List.mem_cons_of_mem a mem))
    rw [List.foldl_cons, count, count]
    omega

theorem count_snoc {p : S → A → Bool} {as : List A} {a : A} {s : S} :
    count step p (as ++ [a]) s =
      count step p as s + if p (as.foldl step s) a then 1 else 0 := by
  induction as generalizing s with
  | nil => exact Nat.add_comm _ _
  | cons b rest ih => rw [List.cons_append, count, ih, count, List.foldl_cons, Nat.add_assoc]

theorem count_never {as : List A} {s : S} : count step (fun _ _ => false) as s = 0 := by
  induction as generalizing s with
  | nil => rfl
  | cons a rest ih => simp [count, ih]

/-- What grows by one at most, and only in a step which meets the condition, grows by no more than
the number of these steps. -/
theorem growth_le_count {K : S → Prop} {f : S → Nat} {p : S → A → Bool} {as : List A} {s : S}
    (keeps : ∀ a ∈ as, ∀ s, K s → K (step s a))
    (grows : ∀ a ∈ as, ∀ s, K s → f (step s a) ≤ f s + if p s a then 1 else 0) (kept : K s) :
    f (as.foldl step s) ≤ f s + count step p as s := by
  have bound := balance (f := f) (p := p) (q := fun _ _ => false)
    (always_of_invariant keeps (fun _ same => same) kept)
    (fun a mem s kept _ => by simpa using grows a mem s kept)
  rwa [count_never, Nat.zero_add] at bound

end Trace
