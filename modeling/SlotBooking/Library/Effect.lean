import SlotBooking.Library.Traversal
import Mathlib.Logic.Basic

/-! Commands over a mutable store which may fail part of the way through.
A failed command keeps the store it had reached, so nothing is rolled back.
This is how statements behave that run one by one with no transaction around them. -/

universe u v w

/-- From a store to a result and the store left behind, whether it failed or not. -/
def Effect (σ : Type u) (ε : Type v) (α : Type w) : Type (max u v w) := σ → Except ε α × σ

namespace Effect

variable {σ : Type u} {ε : Type v} {α β : Type w}

def succeed (a : α) : Effect σ ε α := fun s => (.ok a, s)

def fail (e : ε) : Effect σ ε α := fun s => (.error e, s)

/-- Sequencing; the second command sees the store of the first, and is skipped on failure. -/
def andThen (x : Effect σ ε α) (f : α → Effect σ ε β) : Effect σ ε β := fun s =>
  match x s with
  | (.ok a, t) => f a t
  | (.error e, t) => (.error e, t)

instance : Monad (Effect σ ε) where
  pure := succeed
  bind := andThen

/-- A read: the result is computed from the store, which stays as it is. -/
def inspect (f : σ → Except ε α) : Effect σ ε α := fun s => (f s, s)

/-- A computation beside the store, failing with `e` where it has no value. -/
def attempt (e : ε) (value : Option α) : Effect σ ε α := fun s =>
  match value with
  | some a => (.ok a, s)
  | none => (.error e, s)

/-- One atomic statement: it fails with `e` and changes nothing, or it changes the store. -/
def exec (e : ε) (statement : σ → Option σ) : Effect σ ε PUnit := fun s =>
  match statement s with
  | some t => (.ok ⟨⟩, t)
  | none => (.error e, s)

@[simp] theorem succeed_run (a : α) (s : σ) : (succeed a : Effect σ ε α) s = (.ok a, s) := rfl

@[simp] theorem inspect_run (f : σ → Except ε α) (s : σ) : inspect f s = (f s, s) := rfl

@[simp] theorem attempt_none (e : ε) (s : σ) :
    (attempt e none : Effect σ ε α) s = (.error e, s) := rfl

theorem bind_ok {x : Effect σ ε α} {f : α → Effect σ ε β} {s t : σ} {a : α}
    (h : x s = (.ok a, t)) : (x >>= f) s = f a t := by
  change andThen x f s = f a t
  simp only [andThen, h]

theorem bind_error {x : Effect σ ε α} {f : α → Effect σ ε β} {s t : σ} {e : ε}
    (h : x s = (.error e, t)) : (x >>= f) s = (.error e, t) := by
  change andThen x f s = (.error e, t)
  simp only [andThen, h]

theorem exec_some {e : ε} {statement : σ → Option σ} {s t : σ} (h : statement s = some t) :
    exec e statement s = (.ok ⟨⟩, t) := by
  simp only [exec, h]

theorem exec_none {e : ε} {statement : σ → Option σ} {s : σ} (h : statement s = none) :
    exec e statement s = (.error e, s) := by
  simp only [exec, h]

@[simp] theorem inspect_bind (f : σ → Except ε α) (g : α → Effect σ ε β) (s : σ) :
    (inspect f >>= g) s = match f s with
      | .ok a => g a s
      | .error e => (.error e, s) := by
  cases h : f s with
  | ok a => exact bind_ok (by rw [inspect_run, h])
  | error e => exact bind_error (by rw [inspect_run, h])

instance : LawfulMonad (Effect σ ε) := by
  refine LawfulMonad.mk' (Effect σ ε) ?_ ?_ ?_
  · intro α x
    funext s
    change andThen x (succeed ∘ id) s = x s
    unfold andThen
    rcases x s with ⟨_ | _, t⟩
    · rfl
    · rfl
  · intro α β a f
    rfl
  · intro α β γ x f g
    funext s
    change andThen (andThen x f) g s = andThen x (fun a => andThen (f a) g) s
    unfold andThen
    rcases x s with ⟨_ | _, t⟩
    · rfl
    · rfl

theorem exec_bind {e : ε} {statement : σ → Option σ} {g : PUnit → Effect σ ε β} {s t : σ}
    (h : statement s = some t) : (exec e statement >>= g) s = g ⟨⟩ t := bind_ok (exec_some h)

theorem attempt_bind {e : ε} {value : Option α} {a : α} {g : α → Effect σ ε β} (s : σ)
    (h : value = some a) : (attempt e value >>= g) s = g a s := by
  subst h
  rfl

theorem bind_eq_ok {x : Effect σ ε α} {f : α → Effect σ ε β} {s t : σ} {b : β}
    (h : (x >>= f) s = (.ok b, t)) : ∃ a m, x s = (.ok a, m) ∧ f a m = (.ok b, t) := by
  obtain ⟨r, m, hx⟩ : ∃ r m, x s = (r, m) := ⟨_, _, rfl⟩
  cases r with
  | ok a => exact ⟨a, m, hx, (bind_ok hx).symm.trans h⟩
  | error e =>
    rw [bind_error hx] at h
    cases h

theorem attempt_eq_ok {e : ε} {value : Option α} {s t : σ} {a : α}
    (h : attempt e value s = (.ok a, t)) : value = some a ∧ s = t := by
  cases value with
  | none => cases h
  | some b => cases h; exact ⟨rfl, rfl⟩

theorem exec_eq_ok_iff {e : ε} {statement : σ → Option σ} {s t : σ} {a : PUnit} :
    exec e statement s = (.ok a, t) ↔ statement s = some t := by
  cases hs : statement s with
  | none =>
    rw [exec_none hs]
    exact ⟨nofun, nofun⟩
  | some m =>
    rw [exec_some hs]
    simp

theorem forM_cons (body : α → Effect σ ε PUnit) (x : α) (xs : List α) :
    (x :: xs).forM body = body x >>= fun _ => xs.forM body := rfl

/-- A loop fails if one of its turns fails from every store. -/
theorem forM_fails {body : α → Effect σ ε PUnit} {x : α} {xs : List α} (mem : x ∈ xs)
    (fails : ∀ s, ∃ e t, body x s = (.error e, t)) (s : σ) :
    ∃ e t, xs.forM body s = (.error e, t) := by
  induction xs generalizing s with
  | nil => cases mem
  | cons y rest ih =>
    rw [forM_cons]
    obtain ⟨r, m, ran⟩ : ∃ r m, body y s = (r, m) := ⟨_, _, rfl⟩
    cases r with
    | error e => exact ⟨e, m, bind_error ran⟩
    | ok a =>
      rw [bind_ok ran]
      rcases List.mem_cons.mp mem with rfl | later
      · obtain ⟨e, t, failed⟩ := fails s
        cases ran.symm.trans failed
      · exact ih later m

/-! ### Which errors a command can end in -/

def ErrorsIn (P : ε → Prop) (x : Effect σ ε α) : Prop := ∀ s e t, x s = (.error e, t) → P e

variable {P : ε → Prop}

theorem errorsIn_succeed (a : α) : ErrorsIn P (succeed a : Effect σ ε α) := by
  intro s e t failed
  cases failed

theorem errorsIn_bind {x : Effect σ ε α} {f : α → Effect σ ε β} (first : ErrorsIn P x)
    (later : ∀ a, ErrorsIn P (f a)) : ErrorsIn P (x >>= f) := by
  intro s e t failed
  obtain ⟨r, m, ran⟩ : ∃ r m, x s = (r, m) := ⟨_, _, rfl⟩
  cases r with
  | ok a => exact later a m e t ((bind_ok ran).symm.trans failed)
  | error e' =>
    cases (bind_error ran).symm.trans failed
    exact first s e _ ran

theorem errorsIn_attempt {e : ε} (value : Option α) (holds : P e) :
    ErrorsIn P (attempt e value : Effect σ ε α) := by
  intro s e' t failed
  cases value with
  | none =>
    cases failed
    exact holds
  | some a => cases failed

theorem errorsIn_exec {e : ε} (statement : σ → Option σ) (holds : P e) :
    ErrorsIn P (exec e statement) := by
  intro s e' t failed
  cases ran : statement s with
  | none =>
    cases (exec_none ran).symm.trans failed
    exact holds
  | some m => cases (exec_some ran).symm.trans failed

/-- Commands beside any store. -/
theorem except_bind_eq_ok {x : Except ε α} {f : α → Except ε β} {b : β} :
    (x >>= f) = .ok b ↔ ∃ a, x = .ok a ∧ f a = .ok b := by
  cases x with
  | error e => exact ⟨nofun, fun ⟨_, absent, _⟩ => nomatch absent⟩
  | ok a => exact ⟨fun done => ⟨a, rfl, done⟩, fun ⟨_, same, done⟩ => by cases same; exact done⟩

theorem except_mapM_eq_ok {f : α → Except ε β} {xs : List α} {ys : List β} :
    xs.mapM f = .ok ys ↔ List.Forall₂ (fun x y => f x = .ok y) xs ys := by
  induction xs generalizing ys with
  | nil =>
    rw [List.mapM_nil, List.forall₂_nil_left_iff]
    exact ⟨fun done => by cases done; rfl, fun same => by rw [same]; rfl⟩
  | cons x xs ih =>
    rw [List.mapM_cons, except_bind_eq_ok, List.forall₂_cons_left_iff]
    constructor
    · rintro ⟨y, head, rest⟩
      obtain ⟨zs, tail, done⟩ := except_bind_eq_ok.mp rest
      cases done
      exact ⟨y, zs, head, ih.mp tail, rfl⟩
    · rintro ⟨y, zs, head, tail, rfl⟩
      exact ⟨y, head, except_bind_eq_ok.mpr ⟨zs, ih.mpr tail, rfl⟩⟩

theorem except_mapM_total {f : α → Except ε β} {xs : List α} (total : ∀ x ∈ xs, ∃ y, f x = .ok y) :
    ∃ ys, xs.mapM f = .ok ys := by
  obtain ⟨ys, related⟩ := Traversal.exists_related total
  exact ⟨ys, except_mapM_eq_ok.mpr related⟩

end Effect
