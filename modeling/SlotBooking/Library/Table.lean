import Mathlib.Data.List.Nodup
import Mathlib.Data.List.Sort

/-! A table with a primary key, as the list of its rows in insertion order.
`put` is the upsert of SQL: the row with the key is updated where it stands,
or the new row is appended. -/

universe u v

namespace Table

variable {α : Type u} {κ : Type v} [DecidableEq κ]

def find (key : α → κ) (k : κ) (rows : List α) : Option α := rows.find? (fun r => key r = k)

/-- The row an upsert of `x` leaves: merged into the row with its key, where there is one. -/
def upserted (key : α → κ) (merge : α → α → α) (x : α) (rows : List α) : α :=
  match find key (key x) rows with
  | some old => merge old x
  | none => x

/-- Insert `x`; where its key is present, `merge old x` takes the place of the old row. -/
def put (key : α → κ) (merge : α → α → α) (x : α) (rows : List α) : List α :=
  if key x ∈ rows.map key then rows.map (fun r => if key r = key x then merge r x else r)
  else rows ++ [x]

def KeepsKey (key : α → κ) (merge : α → α → α) : Prop :=
  ∀ old new, key old = key new → key (merge old new) = key new

variable {key : α → κ} {merge : α → α → α}

theorem find_some {k : κ} {rows : List α} {r : α} (h : find key k rows = some r) :
    r ∈ rows ∧ key r = k :=
  ⟨List.mem_of_find?_eq_some h, by simpa using List.find?_some h⟩

theorem find_none_iff {k : κ} {rows : List α} : find key k rows = none ↔ k ∉ rows.map key := by
  unfold find
  rw [List.find?_eq_none]
  simp only [decide_eq_true_eq, List.mem_map, not_exists, not_and]

theorem find_of_mem {rows : List α} {r : α} (distinct : (rows.map key).Nodup) (h : r ∈ rows) :
    find key (key r) rows = some r := by
  cases found : find key (key r) rows with
  | none => exact absurd (List.mem_map_of_mem h) (find_none_iff.mp found)
  | some q =>
    have hq := find_some found
    rw [List.inj_on_of_nodup_map distinct hq.1 h hq.2]

theorem find_eq_some_iff {rows : List α} (distinct : (rows.map key).Nodup) {k : κ} {r : α} :
    find key k rows = some r ↔ r ∈ rows ∧ key r = k := by
  constructor
  · exact find_some
  · rintro ⟨h, rfl⟩
    exact find_of_mem distinct h

theorem upserted_present {x old : α} {rows : List α} (h : find key (key x) rows = some old) :
    upserted key merge x rows = merge old x := by
  unfold upserted
  rw [h]

theorem upserted_absent {x : α} {rows : List α} (h : find key (key x) rows = none) :
    upserted key merge x rows = x := by
  unfold upserted
  rw [h]

theorem put_fresh {x : α} {rows : List α} (h : key x ∉ rows.map key) :
    put key merge x rows = rows ++ [x] := if_neg h

theorem map_key_update (keeps : KeepsKey key merge) (x : α) (rows : List α) :
    (rows.map (fun r => if key r = key x then merge r x else r)).map key = rows.map key := by
  rw [List.map_map]
  apply List.map_congr_left
  intro r _
  by_cases h : key r = key x
  · simp [h, keeps r x h]
  · simp [h]

theorem keys_put_present (keeps : KeepsKey key merge) {x : α} {rows : List α}
    (h : key x ∈ rows.map key) : (put key merge x rows).map key = rows.map key := by
  rw [put, if_pos h, map_key_update keeps]

theorem map_put_present {β : Type*} {f : α → β} {x : α} {rows : List α}
    (h : key x ∈ rows.map key) (same : ∀ r ∈ rows, key r = key x → f (merge r x) = f r) :
    (put key merge x rows).map f = rows.map f := by
  rw [put, if_pos h, List.map_map]
  apply List.map_congr_left
  intro r mem
  by_cases here : key r = key x
  · simp [here, same r mem here]
  · simp [here]

theorem distinct_put (keeps : KeepsKey key merge) {x : α} {rows : List α}
    (distinct : (rows.map key).Nodup) : ((put key merge x rows).map key).Nodup := by
  by_cases h : key x ∈ rows.map key
  · rw [keys_put_present keeps h]; exact distinct
  · rw [put_fresh h, List.map_append, List.nodup_append]
    refine ⟨distinct, List.nodup_singleton _, ?_⟩
    intro k hk l hl same
    rw [List.map_singleton, List.mem_singleton] at hl
    exact h (same.trans hl ▸ hk)

theorem mem_put {rows : List α} (distinct : (rows.map key).Nodup) {x r : α} :
    r ∈ put key merge x rows ↔
      (r ∈ rows ∧ key r ≠ key x) ∨ r = upserted key merge x rows := by
  unfold upserted
  by_cases h : key x ∈ rows.map key
  · obtain ⟨old, hold, same⟩ := List.mem_map.mp h
    have found : find key (key x) rows = some old := by
      rw [← same]; exact find_of_mem distinct hold
    rw [put, if_pos h, found, List.mem_map]
    constructor
    · rintro ⟨q, hq, rfl⟩
      by_cases hk : key q = key x
      · right
        have : q = old := List.inj_on_of_nodup_map distinct hq hold (hk.trans same.symm)
        simp [this, same]
      · left
        simp [hk, hq]
    · rintro (⟨hr, hk⟩ | rfl)
      · exact ⟨r, hr, by simp [hk]⟩
      · exact ⟨old, hold, by simp [same]⟩
  · have found : find key (key x) rows = none := find_none_iff.mpr h
    rw [put_fresh h, found, List.mem_append, List.mem_singleton]
    constructor
    · rintro (hr | rfl)
      · exact .inl ⟨hr, fun same => h (same ▸ List.mem_map_of_mem hr)⟩
      · exact .inr rfl
    · rintro (⟨hr, _⟩ | rfl)
      · exact .inl hr
      · exact .inr rfl

theorem put_split {x old : α} {rows : List α} (distinct : (rows.map key).Nodup)
    (present : find key (key x) rows = some old) :
    ∃ front back, rows = front ++ old :: back ∧
      put key merge x rows = front ++ merge old x :: back := by
  obtain ⟨mem, same⟩ := find_some present
  obtain ⟨front, back, rfl⟩ := List.append_of_mem mem
  refine ⟨front, back, rfl, ?_⟩
  rw [List.map_append, List.map_cons, List.nodup_append, List.nodup_cons] at distinct
  obtain ⟨_, ⟨notLater, _⟩, notEarlier⟩ := distinct
  have apart : ∀ part : List α, key x ∉ part.map key →
      part.map (fun r => if key r = key x then merge r x else r) = part := by
    intro part absent
    have each : ∀ r ∈ part, (if key r = key x then merge r x else r) = id r :=
      fun r mem => if_neg (fun h : key r = key x => absent (h ▸ List.mem_map_of_mem mem))
    rw [List.map_congr_left each, List.map_id]
  have keepFront := apart front (fun mem => notEarlier _ mem _ List.mem_cons_self same.symm)
  have keepBack := apart back (same ▸ notLater)
  have here : key x ∈ (front ++ old :: back).map key := same ▸ List.mem_map_of_mem mem
  rw [put, if_pos here, List.map_append, List.map_cons, keepFront, keepBack, if_pos same]

theorem key_upserted (keeps : KeepsKey key merge) (x : α) (rows : List α) :
    key (upserted key merge x rows) = key x := by
  unfold upserted
  cases found : find key (key x) rows with
  | none => rfl
  | some old => exact keeps old x (find_some found).2

theorem find_put_self (keeps : KeepsKey key merge) {rows : List α} (distinct : (rows.map key).Nodup)
    (x : α) : find key (key x) (put key merge x rows) = some (upserted key merge x rows) := by
  rw [find_eq_some_iff (distinct_put keeps distinct), mem_put distinct]
  exact ⟨.inr rfl, key_upserted keeps x rows⟩

theorem find_put_ne (keeps : KeepsKey key merge) {rows : List α} (distinct : (rows.map key).Nodup)
    {x : α} {k : κ} (h : k ≠ key x) :
    find key k (put key merge x rows) = find key k rows := by
  apply Option.ext
  intro r
  rw [find_eq_some_iff (distinct_put keeps distinct), find_eq_some_iff distinct, mem_put distinct]
  constructor
  · rintro ⟨⟨hr, _⟩ | rfl, hk⟩
    · exact ⟨hr, hk⟩
    · exact absurd (hk.symm.trans (key_upserted keeps x rows)) h
  · rintro ⟨hr, hk⟩
    exact ⟨.inl ⟨hr, fun same => h (hk ▸ same)⟩, hk⟩

theorem find_put_replaced (x : α) (rows : List α) :
    find key (key x) (put key (fun _ excluded => excluded) x rows) = some x := by
  unfold find put
  split
  · rename_i present
    induction rows with
    | nil => cases present
    | cons r rows ih =>
      by_cases here : key r = key x
      · simp [here]
      · have later : key x ∈ rows.map key := by
          simpa [Ne.symm here] using present
        simpa [here] using ih later
  · rename_i absent
    rw [List.find?_append, List.find?_eq_none.mpr, Option.none_or]
    · simp
    · intro r mem same
      exact absent (List.mem_map.mpr ⟨r, mem, of_decide_eq_true same⟩)

end Table
