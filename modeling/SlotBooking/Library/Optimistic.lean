import Mathlib.Logic.Function.Basic
import Mathlib.Logic.Relation

/-! Optimistic concurrency. Each key has a version that only grows; a client commits on the
version it has loaded, and the commit is refused where the version has moved on. -/

namespace Optimistic

variable {Client Key : Type*}

/-- What a client holds: a key at a version, and how many commits there were by then. -/
structure Hold (Key : Type*) where
  key : Key
  version : Nat
  since : Nat

/-- The versions (0 is absent), what each client holds, and the keys committed on, in order. -/
structure State (Client Key : Type*) where
  version : Key → Nat
  held : Client → Option (Hold Key)
  committed : List Key

def start : State Client Key := ⟨fun _ => 0, fun _ => none, []⟩

/-- What is held is a version that has been, and it has moved on exactly where there was a
commit on the key since. -/
structure Held (version : Key → Nat) (committed : List Key) (h : Hold Key) : Prop where
  present : 0 < h.version
  past : h.version ≤ version h.key
  since : h.since ≤ committed.length
  current : version h.key = h.version ↔ h.key ∉ committed.drop h.since

section
variable [DecidableEq Key] {version : Key → Nat} {committed : List Key} {h : Hold Key}

omit [DecidableEq Key] in
theorem Held.load {k : Key} (present : 0 < version k) :
    Held version committed ⟨k, version k, committed.length⟩ :=
  ⟨present, Nat.le_refl _, Nat.le_refl _, by simp⟩

theorem Held.create (held : Held version committed h) {k : Key} (n : Nat) (absent : version k = 0) :
    Held (Function.update version k n) committed h := by
  have other : h.key ≠ k := by
    intro same
    have present := held.present
    have past := held.past
    rw [same, absent] at past
    omega
  refine ⟨held.present, ?_, held.since, ?_⟩
  · rw [Function.update_of_ne other]
    exact held.past
  · rw [Function.update_of_ne other]
    exact held.current

theorem Held.commit (held : Held version committed h) {k : Key} {n : Nat} (grows : version k < n) :
    Held (Function.update version k n) (committed ++ [k]) h := by
  have later : (committed ++ [k]).drop h.since = committed.drop h.since ++ [k] :=
    List.drop_append_of_le_length held.since
  have since : h.since ≤ (committed ++ [k]).length := by
    rw [List.length_append]
    exact Nat.le_add_right_of_le held.since
  have past := held.past
  by_cases same : h.key = k
  · rw [same] at past
    refine ⟨held.present, ?_, since, ?_⟩
    · rw [same, Function.update_self]
      omega
    · rw [same, Function.update_self, later]
      constructor
      · intro stale
        omega
      · exact fun absent => absurd (List.mem_append_right _ (List.mem_singleton_self k)) absent
  · refine ⟨held.present, ?_, since, ?_⟩
    · rw [Function.update_of_ne same]
      exact past
    · rw [Function.update_of_ne same, later, List.mem_append, List.mem_singleton, held.current]
      constructor
      · exact fun absent mem => mem.elim absent same
      · exact fun absent mem => absent (.inl mem)

end

variable [DecidableEq Client] [DecidableEq Key]

inductive Step (s : State Client Key) : State Client Key → Prop
  | load (c : Client) (k : Key) (present : 0 < s.version k) :
      Step s ⟨s.version, Function.update s.held c (some ⟨k, s.version k, s.committed.length⟩),
        s.committed⟩
  | create (k : Key) (n : Nat) (absent : s.version k = 0) :
      Step s ⟨Function.update s.version k n, s.held, s.committed⟩
  | commit (c : Client) (h : Hold Key) (n : Nat) (holds : s.held c = some h)
      (current : s.version h.key = h.version) (grows : h.version < n) :
      Step s ⟨Function.update s.version h.key n, s.held, s.committed ++ [h.key]⟩

def Invariant (s : State Client Key) : Prop :=
  ∀ c h, s.held c = some h → Held s.version s.committed h

theorem Step.invariant {s s' : State Client Key} (step : Step s s') (before : Invariant s) :
    Invariant s' := by
  intro d h holds
  cases step with
  | load c k present =>
    by_cases same : d = c
    · subst same
      cases (Function.update_self _ _ _).symm.trans holds
      exact .load present
    · exact before d h ((Function.update_of_ne same _ _).symm.trans holds)
  | create k n absent => exact (before d h holds).create n absent
  | commit c g n holding current grows => exact (before d h holds).commit (current ▸ grows)

theorem invariant_reachable {s : State Client Key} (reached : Relation.ReflTransGen Step start s) :
    Invariant s := by
  induction reached with
  | refl => nofun
  | tail _ step ih => exact step.invariant ih

/-- A client is up to date exactly where nobody has committed on its key since it loaded. -/
theorem current_iff {s : State Client Key} (reached : Relation.ReflTransGen Step start s)
    {c : Client} {h : Hold Key} (holds : s.held c = some h) :
    s.version h.key = h.version ↔ h.key ∉ s.committed.drop h.since :=
  (invariant_reachable reached c h holds).current

end Optimistic
