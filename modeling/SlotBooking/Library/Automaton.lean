import Mathlib.Data.List.Basic

/-! Partial deterministic automata, and what the words they read look like. -/

universe u v

namespace Automaton

variable {Q : Type u} {A : Type v} {step : Q → A → Option Q}

/-- Read a word letter by letter; no value where a letter cannot be read. -/
def run (step : Q → A → Option Q) : Q → List A → Option Q
  | q, [] => some q
  | q, a :: word => (step q a).bind (fun p => run step p word)

theorem run_append (q : Q) (xs ys : List A) :
    run step q (xs ++ ys) = (run step q xs).bind (fun p => run step p ys) := by
  induction xs generalizing q with
  | nil => rfl
  | cons a xs ih =>
    rw [List.cons_append, run, run]
    cases step q a with
    | none => rfl
    | some p => exact ih p

theorem run_snoc {q p r : Q} {word : List A} {a : A} (before : run step q word = some p)
    (next : step p a = some r) : run step q (word ++ [a]) = some r := by
  rw [run_append, before, Option.bind_some, run, next]
  rfl

theorem run_split {q r : Q} {pre post : List A} {a : A}
    (reads : run step q (pre ++ a :: post) = some r) :
    ∃ p p', run step q pre = some p ∧ step p a = some p' ∧ run step p' post = some r := by
  rw [run_append, Option.bind_eq_some_iff] at reads
  obtain ⟨p, before, later⟩ := reads
  rw [run, Option.bind_eq_some_iff] at later
  obtain ⟨p', here, after⟩ := later
  exact ⟨p, p', before, here, after⟩

theorem word_nil_of_stuck {q r : Q} {word : List A} (stuck : ∀ a, step q a = none)
    (reads : run step q word = some r) : word = [] := by
  cases word with
  | nil => rfl
  | cons a word =>
    rw [run, stuck a] at reads
    cases reads

theorem run_keeps {P : Q → Prop} {word : List A}
    (keeps : ∀ a ∈ word, ∀ p p', P p → step p a = some p' → P p') {q r : Q} (initial : P q)
    (reads : run step q word = some r) : P r := by
  induction word generalizing q with
  | nil =>
    cases reads
    exact initial
  | cons a word ih =>
    rw [run, Option.bind_eq_some_iff] at reads
    obtain ⟨p, here, later⟩ := reads
    have next : P p := keeps a List.mem_cons_self q p initial here
    exact ih (fun b mem => keeps b (List.mem_cons_of_mem a mem)) next later

/-- A letter which is blocked under `P` comes only after a letter which leaves `P`. -/
theorem unread_of_keeps {P : Q → Prop} {pre post : List A} {b : A} {q r : Q}
    (keeps : ∀ a ∈ pre, ∀ p p', P p → step p a = some p' → P p')
    (blocked : ∀ p, P p → step p b = none) (initial : P q)
    (reads : run step q (pre ++ b :: post) = some r) : False := by
  obtain ⟨p, p', before, here, _⟩ := run_split reads
  have there : P p := run_keeps keeps initial before
  rw [blocked p there] at here
  cases here

end Automaton
