import Mathlib.Data.List.Sort
import Mathlib.Order.Basic

/-! Stable sorting by a column: what it does to a filtered list, where it puts new elements,
and what is left to sort when the first of the least elements is taken out. -/

universe u v

namespace Selection

variable {α : Type u} {β : Type v} [LinearOrder β]

section
variable (order : α → α → Prop) [DecidableRel order]

theorem orderedInsert_least {x : α} {ys : List α} (least : ∀ y ∈ ys, order x y) :
    ys.orderedInsert order x = x :: ys := by
  cases ys with
  | nil => rfl
  | cons y ys => exact List.orderedInsert_cons_of_le order ys (least y List.mem_cons_self)

theorem orderedInsert_append_left {x : α} {front back : List α} (before : ∀ y ∈ back, order x y) :
    (front ++ back).orderedInsert order x = front.orderedInsert order x ++ back := by
  induction front with
  | nil => exact orderedInsert_least order before
  | cons y front ih =>
    rw [List.cons_append, List.orderedInsert_cons, List.orderedInsert_cons, ih]
    split <;> rfl

theorem orderedInsert_append_right {x : α} {front back : List α}
    (after : ∀ y ∈ front, ¬ order x y) :
    (front ++ back).orderedInsert order x = front ++ back.orderedInsert order x := by
  induction front with
  | nil => rfl
  | cons y front ih =>
    rw [List.cons_append, List.orderedInsert_cons, if_neg (after y List.mem_cons_self),
      ih (fun z mem => after z (List.mem_cons_of_mem y mem))]
    rfl

end

/-- Sorting by a column puts the rows up to a bound before the others. -/
theorem insertionSort_split (column : α → β) (bound : β) (rows : List α) :
    rows.insertionSort (fun a b => column a ≤ column b) =
      (rows.filter (fun r => column r ≤ bound)).insertionSort (fun a b => column a ≤ column b) ++
      (rows.filter (fun r => bound < column r)).insertionSort (fun a b => column a ≤ column b) := by
  induction rows with
  | nil => rfl
  | cons x rows ih =>
    rw [List.insertionSort_cons, ih]
    have low : ∀ y ∈ (rows.filter (fun r => column r ≤ bound)).insertionSort
        (fun a b => column a ≤ column b), column y ≤ bound := by
      intro y mem
      rw [List.mem_insertionSort] at mem
      simpa using (List.mem_filter.mp mem).2
    have high : ∀ y ∈ (rows.filter (fun r => bound < column r)).insertionSort
        (fun a b => column a ≤ column b), bound < column y := by
      intro y mem
      rw [List.mem_insertionSort] at mem
      simpa using (List.mem_filter.mp mem).2
    by_cases here : column x ≤ bound
    · have beyond : ¬ bound < column x := not_lt.mpr here
      rw [orderedInsert_append_left (fun a b => column a ≤ column b)
          (fun y mem => (here.trans_lt (high y mem)).le),
        List.filter_cons_of_pos (by simpa using here),
        List.filter_cons_of_neg (by simpa using beyond), List.insertionSort_cons]
    · have beyond : bound < column x := not_le.mp here
      rw [orderedInsert_append_right (fun a b => column a ≤ column b)
          (fun y mem => not_le.mpr ((low y mem).trans_lt beyond)),
        List.filter_cons_of_neg (by simpa using here),
        List.filter_cons_of_pos (by simpa using beyond), List.insertionSort_cons]

/-- New rows, in order and numbered after the bound, go between the rows up to the bound and
those beyond the new ones. -/
theorem insertionSort_insert (column : α → β) {bound last : β} {rows fresh : List α}
    (ascending : fresh.Pairwise (fun a b => column a ≤ column b))
    (numbered : ∀ r ∈ fresh, bound < column r ∧ column r ≤ last)
    (free : ∀ r ∈ rows, bound < column r → last < column r) :
    (rows ++ fresh).insertionSort (fun a b => column a ≤ column b) =
      (rows.filter (fun r => column r ≤ bound)).insertionSort (fun a b => column a ≤ column b) ++
      fresh ++
      (rows.filter (fun r => bound < column r)).insertionSort (fun a b => column a ≤ column b) := by
  have above : ∀ r ∈ rows.filter (fun r => bound < column r), last < column r := by
    intro r mem
    obtain ⟨inRows, beyond⟩ := List.mem_filter.mp mem
    exact free r inRows (of_decide_eq_true beyond)
  have freshLow : fresh.filter (fun r => column r ≤ bound) = [] := by
    apply List.filter_eq_nil_iff.mpr
    intro r mem low
    have after := (numbered r mem).1
    exact absurd (of_decide_eq_true low) (not_le.mpr after)
  have freshHigh : fresh.filter (fun r => bound < column r) = fresh := by
    apply List.filter_eq_self.mpr
    simpa using fun r mem => (numbered r mem).1
  have freshWithin : fresh.filter (fun r => column r ≤ last) = fresh := by
    apply List.filter_eq_self.mpr
    simpa using fun r mem => (numbered r mem).2
  have freshBeyond : fresh.filter (fun r => last < column r) = [] := by
    apply List.filter_eq_nil_iff.mpr
    simpa using fun r mem => (numbered r mem).2
  have oldWithin : (rows.filter (fun r => bound < column r)).filter (fun r => column r ≤ last) =
      [] := by
    apply List.filter_eq_nil_iff.mpr
    simpa using fun r mem => above r (List.mem_filter.mpr mem)
  have oldBeyond : (rows.filter (fun r => bound < column r)).filter (fun r => last < column r) =
      rows.filter (fun r => bound < column r) := by
    apply List.filter_eq_self.mpr
    simpa using above
  rw [insertionSort_split column bound, List.filter_append, List.filter_append, freshLow, freshHigh,
    insertionSort_split column last (rows.filter _ ++ fresh), List.filter_append,
    List.filter_append, oldWithin, oldBeyond, freshWithin, freshBeyond, List.append_nil,
    List.append_nil, List.nil_append, ascending.insertionSort_eq, List.append_assoc]

/-! ### Filters -/

/-- Sorting is stable, so elements which are left out leave no trace in the order. -/
theorem filter_orderedInsert (column : α → β) (p : α → Bool) (x : α) {ys : List α}
    (ascending : ys.Pairwise (fun a b => column a ≤ column b)) :
    (ys.orderedInsert (fun a b => column a ≤ column b) x).filter p =
      if p x then (ys.filter p).orderedInsert (fun a b => column a ≤ column b) x
      else ys.filter p := by
  induction ys with
  | nil => by_cases here : p x <;> simp [here]
  | cons y ys ih =>
    obtain ⟨least, later⟩ := List.pairwise_cons.mp ascending
    rw [List.orderedInsert_cons]
    by_cases before : column x ≤ column y
    · rw [if_pos before, List.filter_cons]
      by_cases here : p x
      · have below : ∀ z ∈ (y :: ys).filter p, column x ≤ column z := by
          intro z mem
          rcases List.mem_cons.mp (List.mem_filter.mp mem).1 with rfl | mem
          · exact before
          · exact before.trans (least z mem)
        rw [if_pos here, if_pos here]
        exact (orderedInsert_least _ below).symm
      · rw [if_neg here, if_neg here]
    · rw [if_neg before, List.filter_cons, ih later, List.filter_cons]
      by_cases here : p x
      · by_cases there : p y
        · simp [here, there, before]
        · simp [here, there]
      · simp [here]

theorem filter_insertionSort (column : α → β) (p : α → Bool) (xs : List α) :
    (xs.insertionSort (fun a b => column a ≤ column b)).filter p =
      (xs.filter p).insertionSort (fun a b => column a ≤ column b) := by
  induction xs with
  | nil => rfl
  | cons x xs ih =>
    have ascending := List.pairwise_insertionSort (fun a b => column a ≤ column b) xs
    rw [List.insertionSort_cons, filter_orderedInsert column p x ascending, ih, List.filter_cons]
    split <;> rfl

/-! ### Stability -/

/-- `ys` holds the elements of `xs` in ascending order, those of one key as they stand in `xs`. -/
structure StablySorted (column : α → β) (xs ys : List α) : Prop where
  perm : ys.Perm xs
  ascending : ys.Pairwise (fun a b => column a ≤ column b)
  inPlace : ∀ key, ys.filter (fun y => column y = key) = xs.filter (fun x => column x = key)

theorem stablySorted_insertionSort (column : α → β) (xs : List α) :
    StablySorted column xs (xs.insertionSort (fun a b => column a ≤ column b)) where
  perm := List.perm_insertionSort _ xs
  ascending := List.pairwise_insertionSort _ xs
  inPlace := by
    intro key
    rw [filter_insertionSort]
    have level : (xs.filter (fun x => column x = key)).Pairwise
        (fun a b => column a ≤ column b) := by
      rw [List.pairwise_iff_forall_sublist]
      intro a b inOrder
      have keyOf : ∀ x ∈ xs.filter (fun x => column x = key), column x = key := by simp
      rw [keyOf a (inOrder.subset (by simp)), keyOf b (inOrder.subset (by simp))]
    exact level.insertionSort_eq

/-- Distinct keys are in strict order. -/
theorem StablySorted.strict {column : α → β} {xs ys : List α} (sorted : StablySorted column xs ys)
    (distinct : (xs.map column).Nodup) : ys.Pairwise (fun a b => column a < column b) := by
  have apart : (ys.map column).Nodup := (sorted.perm.map column).nodup_iff.mpr distinct
  rw [List.nodup_iff_pairwise_ne, List.pairwise_map] at apart
  exact sorted.ascending.imp₂ (fun _ _ le ne => lt_of_le_of_ne le ne) apart

/-! ### Places -/

/-- In strict order an element stands behind exactly those with a smaller key. -/
theorem getElem_countP_lt {column : α → β} {xs : List α} {x : α}
    (strict : xs.Pairwise (fun a b => column a < column b)) (mem : x ∈ xs) :
    xs[xs.countP (fun y => column y < column x)]? = some x := by
  induction xs with
  | nil => cases mem
  | cons y ys ih =>
    obtain ⟨first, later⟩ := List.pairwise_cons.mp strict
    rcases List.mem_cons.mp mem with rfl | mem
    · have behind : (x :: ys).countP (fun y => column y < column x) = 0 := by
        rw [List.countP_eq_zero]
        intro z inList
        rcases List.mem_cons.mp inList with rfl | inTail
        · simp
        · simpa using (first z inTail).le
      rw [behind]
      rfl
    · simpa [List.countP_cons, first x mem] using ih later mem

theorem countP_lt_eq_zero_iff {column : α → β} {xs : List α} {x : α}
    (strict : xs.Pairwise (fun a b => column a < column b)) (mem : x ∈ xs) :
    xs.countP (fun y => column y < column x) = 0 ↔ xs.head? = some x := by
  have place := getElem_countP_lt strict mem
  constructor
  · intro zero
    rw [zero] at place
    exact List.head?_eq_getElem? ▸ place
  · intro first
    obtain ⟨rest, rfl⟩ := List.head?_eq_some_iff.mp first
    rw [List.countP_eq_zero]
    intro z inList
    rcases List.mem_cons.mp inList with rfl | inTail
    · simp
    · simpa using (List.rel_of_pairwise_cons strict inTail).le

/-- A search by name finds an element at its place, where no other has its name. -/
theorem findIdx?_name {κ : Type v} [DecidableEq κ] {column : α → β} {name : α → κ} {xs : List α}
    {x : α} (strict : xs.Pairwise (fun a b => column a < column b)) (mem : x ∈ xs)
    (named : ∀ y ∈ xs, name y = name x → y = x) :
    xs.findIdx? (fun y => name y = name x) = some (xs.countP (fun y => column y < column x)) := by
  induction xs with
  | nil => cases mem
  | cons y ys ih =>
    obtain ⟨first, later⟩ := List.pairwise_cons.mp strict
    by_cases same : y = x
    · subst same
      rw [(countP_lt_eq_zero_iff strict mem).mpr rfl]
      simp [List.findIdx?_cons]
    · have behind : x ∈ ys := (List.mem_cons.mp mem).resolve_left (Ne.symm same)
      have other : name y ≠ name x := fun eq => same (named y List.mem_cons_self eq)
      have rest := ih later behind (fun z inTail => named z (List.mem_cons_of_mem y inTail))
      simp [List.findIdx?_cons, other, rest, first x behind]

/-- Up to any length, a prefix counts all that come before one of its own elements. -/
theorem countP_take {column : α → β} {xs : List α} {x : α} {n : Nat} (p : α → Bool)
    (strict : xs.Pairwise (fun a b => column a < column b)) (mem : x ∈ xs.take n) :
    (xs.take n).countP (fun y => p y && column y < column x) =
      xs.countP (fun y => p y && column y < column x) := by
  have none : (xs.drop n).countP (fun y => p y && column y < column x) = 0 := by
    rw [List.countP_eq_zero]
    intro y beyond
    have split := List.pairwise_append.mp ((List.take_append_drop n xs).symm ▸ strict)
    simp [(split.2.2 x mem y beyond).le]
  conv_rhs => rw [← List.take_append_drop n xs, List.countP_append, none]
  rfl

/-! ### The first of the least elements -/

/-- One pass which replaces the best element only by a smaller one. -/
def keepLeast (column : α → β) (best : Option α) (x : α) : Option α :=
  match best with
  | none => some x
  | some b => if column x < column b then some x else some b

/-- The head of an ordered insertion, where the rest starts with `best`. -/
def lesser (column : α → β) (x : α) : Option α → α
  | none => x
  | some b => if column x ≤ column b then x else b

theorem head_orderedInsert (column : α → β) (x : α) (ys : List α) :
    (ys.orderedInsert (fun a b => column a ≤ column b) x).head? =
      some (lesser column x ys.head?) := by
  cases ys with
  | nil => rfl
  | cons y ys =>
    rw [List.orderedInsert_cons, List.head?_cons, lesser]
    split <;> rfl

theorem lesser_lesser (column : α → β) (b x : α) (best : Option α) :
    lesser column b (some (lesser column x best)) =
      lesser column (if column x < column b then x else b) best := by
  cases best with
  | none =>
    by_cases smaller : column x < column b
    · simp [lesser, smaller, not_le.mpr smaller]
    · simp [lesser, smaller, not_lt.mp smaller]
  | some c =>
    by_cases smaller : column x < column b
    · by_cases first : column x ≤ column c
      · simp [lesser, smaller, first]
      · have below : column c < column b := (not_le.mp first).trans smaller
        simp [lesser, smaller, first, below]
    · have least : column b ≤ column x := not_lt.mp smaller
      by_cases first : column x ≤ column c
      · simp [lesser, smaller, first, least, least.trans first]
      · simp [lesser, smaller, first]

theorem foldl_keepLeast_some (column : α → β) (xs : List α) (b : α) :
    xs.foldl (keepLeast column) (some b) = some (lesser column b
      (xs.insertionSort (fun a b => column a ≤ column b)).head?) := by
  induction xs generalizing b with
  | nil => rfl
  | cons x xs ih =>
    rw [List.foldl_cons, List.insertionSort_cons, head_orderedInsert, lesser_lesser, ← ih,
      keepLeast]
    split <;> rfl

/-- The pass ends with the head of the sorted list. -/
theorem foldl_keepLeast (column : α → β) (xs : List α) :
    xs.foldl (keepLeast column) none =
      (xs.insertionSort (fun a b => column a ≤ column b)).head? := by
  cases xs with
  | nil => rfl
  | cons x xs =>
    rw [List.foldl_cons, List.insertionSort_cons, head_orderedInsert]
    exact foldl_keepLeast_some column xs x

end Selection
