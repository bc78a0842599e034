import Mathlib.Data.List.Nodup

/-! A map that remembers the order in which its keys were first set, as the Map
of JavaScript does. Setting a key that is present replaces the value in place. -/

universe u v w

/-- Entries in insertion order; no key occurs twice. -/
structure InsertionMap (κ : Type u) (α : Type v) where
  entries : List (κ × α)
  distinct : (entries.map Prod.fst).Nodup

namespace InsertionMap

variable {κ : Type u} {α : Type v} [DecidableEq κ]

def empty : InsertionMap κ α := ⟨[], List.nodup_nil⟩

def keys (m : InsertionMap κ α) : List κ := m.entries.map Prod.fst

def values (m : InsertionMap κ α) : List α := m.entries.map Prod.snd

def get (m : InsertionMap κ α) (k : κ) : Option α :=
  (m.entries.find? (fun e => e.1 = k)).map Prod.snd

/-- The entry list after setting `k`: replaced in place, or appended. -/
def setEntries (entries : List (κ × α)) (k : κ) (a : α) : List (κ × α) :=
  if k ∈ entries.map Prod.fst then entries.map (fun e => if e.1 = k then (k, a) else e)
  else entries ++ [(k, a)]

theorem map_fst_replace (entries : List (κ × α)) (k : κ) (a : α) :
    (entries.map (fun e => if e.1 = k then (k, a) else e)).map Prod.fst =
      entries.map Prod.fst := by
  rw [List.map_map]
  apply List.map_congr_left
  intro e _
  by_cases h : e.1 = k
  · simp [h]
  · simp [h]

theorem setEntries_distinct {entries : List (κ × α)} (k : κ) (a : α)
    (h : (entries.map Prod.fst).Nodup) : ((setEntries entries k a).map Prod.fst).Nodup := by
  unfold setEntries
  split
  · rw [map_fst_replace]; exact h
  · rename_i absent
    rw [List.map_append, List.nodup_append]
    refine ⟨h, List.nodup_singleton k, ?_⟩
    intro x hx y hy same
    rw [List.map_singleton, List.mem_singleton] at hy
    have key : x = k := same.trans hy
    exact absent (key ▸ hx)

def set (m : InsertionMap κ α) (k : κ) (a : α) : InsertionMap κ α :=
  ⟨setEntries m.entries k a, setEntries_distinct k a m.distinct⟩

def ofList (pairs : List (κ × α)) : InsertionMap κ α :=
  pairs.foldl (fun m e => m.set e.1 e.2) empty

/-- The values mapped, under the same keys in the same order. -/
def map {β : Type w} (f : α → β) (m : InsertionMap κ α) : InsertionMap κ β :=
  ⟨m.entries.map (fun e => (e.1, f e.2)), by rw [List.map_map]; exact m.distinct⟩

theorem find_replace_self (entries : List (κ × α)) (k : κ) (a : α)
    (h : k ∈ entries.map Prod.fst) :
    (entries.map (fun e => if e.1 = k then (k, a) else e)).find? (fun e => e.1 = k) =
      some (k, a) := by
  induction entries with
  | nil => cases h
  | cons e rest ih =>
    by_cases hk : e.1 = k
    · simp [hk]
    · have tail : k ∈ rest.map Prod.fst := by
        rcases List.mem_cons.mp h with here | there
        · exact absurd here.symm hk
        · exact there
      simpa [hk] using ih tail

theorem find_replace_ne (entries : List (κ × α)) {k l : κ} (a : α) (h : l ≠ k) :
    (entries.map (fun e => if e.1 = k then (k, a) else e)).find? (fun e => e.1 = l) =
      entries.find? (fun e => e.1 = l) := by
  induction entries with
  | nil => rfl
  | cons e rest ih =>
    by_cases hk : e.1 = k
    · have hl : ¬ e.1 = l := fun same => h (same.symm.trans hk)
      have hr : ¬ k = l := fun same => h same.symm
      simpa [List.map_cons, hk, hr] using ih
    · by_cases hl : e.1 = l
      · simp [hl, h]
      · simpa [List.map_cons, hk, hl] using ih

@[simp] theorem get_set_self (m : InsertionMap κ α) (k : κ) (a : α) :
    (m.set k a).get k = some a := by
  unfold get set setEntries
  split
  · rename_i present
    simp only [find_replace_self _ _ _ present, Option.map_some]
  · rename_i absent
    have none : m.entries.find? (fun e => e.1 = k) = none := by
      rw [List.find?_eq_none]
      intro e he same
      exact absent (List.mem_map.mpr ⟨e, he, by simpa using same⟩)
    simp [List.find?_append, none]

theorem get_set_ne (m : InsertionMap κ α) {k l : κ} (a : α) (h : l ≠ k) :
    (m.set k a).get l = m.get l := by
  have hr : ¬ k = l := fun same => h same.symm
  unfold get set setEntries
  split
  · simp only [find_replace_ne _ a h]
  · simp [List.find?_append, hr]

theorem get_set (m : InsertionMap κ α) (k l : κ) (a : α) :
    (m.set k a).get l = if l = k then some a else m.get l := by
  by_cases h : l = k
  · subst h; simp
  · rw [get_set_ne m a h, if_neg h]

theorem get_set_of_get {m : InsertionMap κ α} {k l : κ} {b : α} (absent : m.get k = none) (a : α)
    (found : m.get l = some b) : (m.set k a).get l = some b := by
  have other : l ≠ k := by
    rintro rfl
    rw [absent] at found
    cases found
  rw [get_set_ne m a other, found]

theorem get_eq_none_iff (m : InsertionMap κ α) (k : κ) : m.get k = none ↔ k ∉ m.keys := by
  unfold get keys
  rw [Option.map_eq_none_iff, List.find?_eq_none]
  simp only [decide_eq_true_eq, List.mem_map, not_exists, not_and]

theorem exists_get_of_mem_keys {m : InsertionMap κ α} {k : κ} (mem : k ∈ m.keys) :
    ∃ a, m.get k = some a := by
  apply Option.ne_none_iff_exists'.mp
  intro absent
  exact (get_eq_none_iff m k).mp absent mem

theorem get_of_mem {m : InsertionMap κ α} {e : κ × α} (mem : e ∈ m.entries) :
    m.get e.1 = some e.2 := by
  have unique : ∀ entries : List (κ × α), (entries.map Prod.fst).Nodup → e ∈ entries →
      entries.find? (fun f => f.1 = e.1) = some e := by
    intro entries distinct inEntries
    induction entries with
    | nil => cases inEntries
    | cons f rest ih =>
      obtain ⟨fresh, distinct⟩ := List.nodup_cons.mp distinct
      rcases List.mem_cons.mp inEntries with rfl | later
      · simp
      · have other : ¬ f.1 = e.1 := fun same => fresh (same ▸ List.mem_map_of_mem later)
        rw [List.find?_cons_of_neg (by simpa using other)]
        exact ih distinct later
  rw [get, unique m.entries m.distinct mem, Option.map_some]

theorem mem_entries_of_get {m : InsertionMap κ α} {k : κ} {a : α} (found : m.get k = some a) :
    (k, a) ∈ m.entries := by
  unfold get at found
  obtain ⟨e, here, rfl⟩ := Option.map_eq_some_iff.mp found
  have own : e.1 = k := by simpa using List.find?_some here
  rw [← own]
  exact List.mem_of_find?_eq_some here

theorem exists_get_of_mem_values {m : InsertionMap κ α} {a : α} (mem : a ∈ m.values) :
    ∃ k, m.get k = some a := by
  obtain ⟨e, here, rfl⟩ := List.mem_map.mp mem
  exact ⟨e.1, get_of_mem here⟩

theorem mem_values_of_get {m : InsertionMap κ α} {k : κ} {a : α} (found : m.get k = some a) :
    a ∈ m.values :=
  List.mem_map_of_mem (mem_entries_of_get found)

theorem entries_set {m : InsertionMap κ α} {k : κ} (a : α) (present : k ∈ m.keys) :
    (m.set k a).entries = m.entries.map (fun e => if e.1 = k then (k, a) else e) :=
  if_pos present

theorem entries_set_absent {m : InsertionMap κ α} {k : κ} (a : α) (absent : k ∉ m.keys) :
    (m.set k a).entries = m.entries ++ [(k, a)] :=
  if_neg absent

theorem keys_set {m : InsertionMap κ α} {k : κ} (a : α) (present : k ∈ m.keys) :
    (m.set k a).keys = m.keys := by
  rw [keys, entries_set a present]
  exact map_fst_replace m.entries k a

/-- The keys in their order and the value of each key are all there is to a map. -/
theorem ext_get {m m' : InsertionMap κ α} (keys_eq : m.keys = m'.keys)
    (get_eq : ∀ k, m.get k = m'.get k) : m = m' := by
  have zipped : ∀ m : InsertionMap κ α,
      m.entries.map (fun e => (e.1, some e.2)) = m.keys.map (fun k => (k, m.get k)) := by
    intro m
    rw [keys, List.map_map]
    exact List.map_congr_left (fun e mem => by rw [Function.comp_apply, get_of_mem mem])
  have same : m.entries.map (fun e => (e.1, some e.2)) =
      m'.entries.map (fun e => (e.1, some e.2)) := by
    rw [zipped m, zipped m', keys_eq]
    exact List.map_congr_left (fun k _ => by rw [get_eq k])
  have injective : Function.Injective (fun e : κ × α => (e.1, some e.2)) := by
    rintro ⟨k, a⟩ ⟨l, b⟩ h
    cases h
    rfl
  obtain ⟨entries, _⟩ := m
  obtain ⟨entries', _⟩ := m'
  cases injective.list_map same
  rfl

omit [DecidableEq κ] in
theorem nodup_entries (m : InsertionMap κ α) : m.entries.Nodup := m.distinct.of_map Prod.fst

theorem mem_entries_iff {m : InsertionMap κ α} {e : κ × α} :
    e ∈ m.entries ↔ m.get e.1 = some e.2 :=
  ⟨get_of_mem, mem_entries_of_get⟩

/-- The value of each key says what is in a map, up to the order of its keys. -/
theorem perm_of_get {m m' : InsertionMap κ α} (get_eq : ∀ k, m.get k = m'.get k) :
    m.entries.Perm m'.entries := by
  apply (List.perm_ext_iff_of_nodup m.nodup_entries m'.nodup_entries).mpr
  intro e
  simp only [mem_entries_iff, get_eq]

/-! ### All entries but one -/

def without (m : InsertionMap κ α) (k : κ) : List (κ × α) := m.entries.filter (fun e => e.1 ≠ k)

theorem mem_without {m : InsertionMap κ α} {k : κ} {e : κ × α} :
    e ∈ m.without k ↔ e.1 ≠ k ∧ m.get e.1 = some e.2 := by
  simp [without, mem_entries_iff, and_comm]

theorem nodup_without (m : InsertionMap κ α) (k : κ) : (m.without k).Nodup :=
  m.nodup_entries.filter _

theorem without_absent {m : InsertionMap κ α} {k : κ} (absent : m.get k = none) :
    m.without k = m.entries := by
  apply List.filter_eq_self.mpr
  intro e mem
  have other : e.1 ≠ k := by
    rintro rfl
    cases absent.symm.trans (get_of_mem mem)
  simpa using other

theorem perm_cons_without {m : InsertionMap κ α} {k : κ} {a : α} (found : m.get k = some a) :
    m.entries.Perm ((k, a) :: m.without k) := by
  have apart : (k, a) ∉ m.without k := fun mem => (mem_without.mp mem).1 rfl
  apply (List.perm_ext_iff_of_nodup m.nodup_entries
    (List.nodup_cons.mpr ⟨apart, m.nodup_without k⟩)).mpr
  intro e
  rw [List.mem_cons, mem_without, mem_entries_iff]
  constructor
  · intro mem
    by_cases own : e.1 = k
    · rw [own, found] at mem
      exact .inl (Prod.ext own (Option.some.inj mem).symm)
    · exact .inr ⟨own, mem⟩
  · rintro (rfl | ⟨_, mem⟩)
    · exact found
    · exact mem

theorem without_perm {m m' : InsertionMap κ α} {k : κ}
    (elsewhere : ∀ l, l ≠ k → m'.get l = m.get l) : (m'.without k).Perm (m.without k) := by
  apply (List.perm_ext_iff_of_nodup (m'.nodup_without k) (m.nodup_without k)).mpr
  intro e
  simp only [mem_without]
  exact and_congr_right (fun other => by rw [elsewhere e.1 other])

def erase (m : InsertionMap κ α) (k : κ) : InsertionMap κ α :=
  ⟨m.without k, m.distinct.sublist (List.filter_sublist.map Prod.fst)⟩

theorem get_erase (m : InsertionMap κ α) (k l : κ) :
    (m.erase k).get l = if l = k then none else m.get l := by
  apply Option.ext
  intro a
  have entry : (l, a) ∈ (m.erase k).entries ↔ l ≠ k ∧ m.get l = some a := mem_without
  rw [← mem_entries_iff (e := (l, a)), entry]
  by_cases own : l = k
  · simp [own]
  · simp [own]

/-- Where the new value falls out of a filter, the others stay in it in their order. -/
theorem filter_values_set {m : InsertionMap κ α} {k : κ} {a : α} {p : α → Bool}
    (present : k ∈ m.keys) (out : p a = false) :
    (m.set k a).values.filter p = ((m.without k).map Prod.snd).filter p := by
  rw [values, entries_set a present, without]
  induction m.entries with
  | nil => rfl
  | cons e rest ih =>
    by_cases own : e.1 = k
    · simpa [own, out] using ih
    · by_cases inside : p e.2 = true
      · simpa [own, inside] using ih
      · simpa [own, inside] using ih

theorem set_get {m : InsertionMap κ α} {k : κ} {a : α} (found : m.get k = some a) :
    m.set k a = m := by
  have present : k ∈ m.keys := by
    by_contra absent
    rw [(get_eq_none_iff m k).mpr absent] at found
    cases found
  refine ext_get (keys_set a present) (fun l => ?_)
  rw [get_set]
  by_cases own : l = k
  · rw [if_pos own, own, found]
  · rw [if_neg own]

theorem entries_ofList {pairs : List (κ × α)} (h : (pairs.map Prod.fst).Nodup) :
    (ofList pairs).entries = pairs := by
  have general : ∀ (rest : List (κ × α)) (m : InsertionMap κ α),
      ((m.entries ++ rest).map Prod.fst).Nodup →
      (rest.foldl (fun m e => m.set e.1 e.2) m).entries = m.entries ++ rest := by
    intro rest
    induction rest with
    | nil => intro m _; simp
    | cons e rest ih =>
      intro m hm
      have absent : e.1 ∉ m.entries.map Prod.fst := by
        intro present
        rw [List.map_append, List.nodup_append] at hm
        exact hm.2.2 e.1 present e.1 (by simp) rfl
      have entries : (m.set e.1 e.2).entries = m.entries ++ [e] := by
        simp only [set, setEntries, if_neg absent]
      rw [List.foldl_cons, ih (m.set e.1 e.2) (by rw [entries]; simpa using hm), entries]
      simp
  simpa [ofList, empty] using general pairs empty (by simpa [empty] using h)

theorem get_ofList {pairs : List (κ × α)} (h : (pairs.map Prod.fst).Nodup) {k : κ} {a : α} :
    (ofList pairs).get k = some a ↔ (k, a) ∈ pairs := by
  have entries := entries_ofList h
  constructor
  · intro found
    exact entries ▸ mem_entries_of_get found
  · intro mem
    exact get_of_mem (e := (k, a)) (entries.symm ▸ mem)

theorem map_set {β : Type w} (f : α → β) (m : InsertionMap κ α) (k : κ) (a : α) :
    (m.set k a).map f = (m.map f).set k (f a) := by
  have keys : (m.entries.map (fun e => (e.1, f e.2))).map Prod.fst = m.entries.map Prod.fst := by
    rw [List.map_map]
    rfl
  have entries : ((m.set k a).map f).entries = ((m.map f).set k (f a)).entries := by
    unfold set map setEntries
    simp only [keys]
    split
    · rw [List.map_map, List.map_map]
      apply List.map_congr_left
      intro e _
      by_cases own : e.1 = k
      · simp [own]
      · simp [own]
    · rw [List.map_append, List.map_singleton]
  cases m' : (m.set k a).map f
  cases m'' : (m.map f).set k (f a)
  rw [m', m''] at entries
  cases entries
  rfl

theorem ofList_map {β : Type w} (f : α → β) (pairs : List (κ × α)) :
    ofList (pairs.map (fun e => (e.1, f e.2))) = (ofList pairs).map f := by
  have general : ∀ (pairs : List (κ × α)) (m : InsertionMap κ α),
      (pairs.map (fun e => (e.1, f e.2))).foldl (fun m e => m.set e.1 e.2) (m.map f) =
        (pairs.foldl (fun m e => m.set e.1 e.2) m).map f := by
    intro pairs
    induction pairs with
    | nil => exact fun _ => rfl
    | cons e pairs ih =>
      intro m
      rw [List.map_cons, List.foldl_cons, List.foldl_cons, ← ih, map_set]
  exact general pairs empty

omit [DecidableEq κ] in
theorem values_map {β : Type w} (f : α → β) (m : InsertionMap κ α) :
    (m.map f).values = m.values.map f := by
  simp only [values, map, List.map_map, Function.comp_def]

end InsertionMap
