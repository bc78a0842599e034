import Mathlib.Data.List.Forall2
import Mathlib.Data.List.Nodup
import Mathlib.Logic.Function.Basic

/-! Tables as SQLite keeps them: declared columns, rows under their constraints, and
indexes over them. A cell holds a value or NULL, written `none`. -/

universe u

namespace Sql

inductive ColumnType where
  | text
  | integer
deriving DecidableEq

/-- An expression is evaluated when a row is inserted. -/
inductive Default (V : Type u) where
  | literal (value : V)
  | expression (sql : String)
deriving DecidableEq

structure Column (V : Type u) where
  name : String
  type : ColumnType
  notNull : Bool
  primary : Bool
  default : Option (Default V)
deriving DecidableEq

/-- The cells of a row by column; it is read at the columns of its table only. -/
abbrev Row (V : Type u) : Type u := String → Option V

section
variable {V : Type u}

def Row.set (r : Row V) (column : String) (v : Option V) : Row V := Function.update r column v

@[simp] theorem Row.set_self (r : Row V) (column : String) (v : Option V) :
    r.set column v column = v := by
  rw [Row.set, Function.update_self]

theorem Row.set_ne (r : Row V) {column c : String} (v : Option V) (other : c ≠ column) :
    r.set column v c = r c := by
  rw [Row.set, Function.update_of_ne other]

theorem Row.set_same (r : Row V) (column : String) : r.set column (r column) = r :=
  Function.update_eq_self column r

/-- The key of a row; a row with a NULL in it has none. -/
def keyOf (columns : List String) (r : Row V) : Option (List V) := columns.mapM r

/-- Keys occur once, where NULLs count as different from each other. -/
def Distinct (columns : List String) (rows : List (Row V)) : Prop :=
  (rows.filterMap (keyOf columns)).Nodup

instance [DecidableEq V] (columns : List String) (rows : List (Row V)) :
    Decidable (Distinct columns rows) :=
  inferInstanceAs (Decidable (List.Nodup _))

theorem keyOf_congr {columns : List String} {r r' : Row V} (agree : ∀ c ∈ columns, r' c = r c) :
    keyOf columns r' = keyOf columns r := by
  induction columns with
  | nil => rfl
  | cons c columns ih =>
    obtain ⟨head, tail⟩ := List.forall_mem_cons.mp agree
    have rest : columns.mapM r' = columns.mapM r := ih tail
    rw [keyOf, keyOf, List.mapM_cons, List.mapM_cons, head, rest]

/-- Two lists of rows that agree, row by row, on some columns. -/
def Agree (columns : List String) (rows rows' : List (Row V)) : Prop :=
  List.Forall₂ (fun r r' => ∀ c ∈ columns, r' c = r c) rows rows'

theorem Agree.mono {columns fewer : List String} {rows rows' : List (Row V)}
    (sub : ∀ c ∈ fewer, c ∈ columns) (agree : Agree columns rows rows') :
    Agree fewer rows rows' :=
  List.Forall₂.imp (fun _ _ same c mem => same c (sub c mem)) agree

theorem Agree.refl (columns : List String) (rows : List (Row V)) : Agree columns rows rows :=
  List.forall₂_same.mpr (fun _ _ _ _ => rfl)

theorem Agree.trans {columns more : List String} {xs ys zs : List (Row V)}
    (first : Agree columns xs ys) (later : Agree more ys zs)
    (sub : ∀ c ∈ columns, c ∈ more) : Agree columns xs zs := by
  induction first generalizing zs with
  | nil =>
    cases later
    exact List.Forall₂.nil
  | cons head _ ih =>
    cases later with
    | cons next rest =>
      exact List.Forall₂.cons (fun c mem => (next c (sub c mem)).trans (head c mem)) (ih rest)

theorem agree_map {columns : List String} {rows : List (Row V)} {g : Row V → Row V}
    (keeps : ∀ r, ∀ c ∈ columns, g r c = r c) : Agree columns rows (rows.map g) := by
  rw [Agree, List.forall₂_map_right_iff, List.forall₂_same]
  exact fun r _ => keeps r

theorem exists_of_forall₂_right {R : Row V → Row V → Prop} {rows rows' : List (Row V)} {r : Row V}
    (related : List.Forall₂ R rows rows') (mem : r ∈ rows) : ∃ r' ∈ rows', R r r' := by
  obtain ⟨i, bound, rfl⟩ := List.mem_iff_getElem.mp mem
  have bound' : i < rows'.length := by
    rw [← related.length_eq]
    exact bound
  exact ⟨rows'[i], List.getElem_mem bound', related.get bound bound'⟩

theorem exists_of_forall₂_left {R : Row V → Row V → Prop} {rows rows' : List (Row V)} {r' : Row V}
    (related : List.Forall₂ R rows rows') (mem : r' ∈ rows') : ∃ r ∈ rows, R r r' :=
  exists_of_forall₂_right related.flip mem

/-- Rows carried on by any relation from rows that agree. -/
theorem Agree.forall₂ {columns : List String} {R : Row V → Row V → Prop}
    {xs ys zs : List (Row V)} (agree : Agree columns xs ys) (later : List.Forall₂ R ys zs) :
    List.Forall₂ (fun x z => ∃ y, (∀ c ∈ columns, y c = x c) ∧ R y z) xs zs := by
  induction agree generalizing zs with
  | nil =>
    cases later
    exact List.Forall₂.nil
  | cons head _ ih =>
    cases later with
    | cons next rest => exact List.Forall₂.cons ⟨_, head, next⟩ (ih rest)

theorem distinct_of_agree {columns : List String} {rows rows' : List (Row V)}
    (agree : Agree columns rows rows') (distinct : Distinct columns rows) :
    Distinct columns rows' := by
  have same : rows'.filterMap (keyOf columns) = rows.filterMap (keyOf columns) := by
    clear distinct
    induction agree with
    | nil => rfl
    | cons head _ ih => rw [List.filterMap_cons, List.filterMap_cons, keyOf_congr head, ih]
  rw [Distinct, same]
  exact distinct

/-! ### Tables -/

/-- What SQLite upholds of the rows of a table with these columns. -/
structure Constrained (columns : List (Column V)) (rows : List (Row V)) : Prop where
  named : (columns.map Column.name).Nodup
  required : ∀ c ∈ columns, c.notNull = true → ∀ r ∈ rows, r c.name ≠ none
  keyed : ∀ c ∈ columns, c.primary = true → Distinct [c.name] rows

instance [DecidableEq V] (columns : List (Column V)) (rows : List (Row V)) :
    Decidable (Constrained columns rows) :=
  decidable_of_iff ((columns.map Column.name).Nodup ∧
      (∀ c ∈ columns, c.notNull = true → ∀ r ∈ rows, r c.name ≠ none) ∧
      ∀ c ∈ columns, c.primary = true → Distinct [c.name] rows)
    ⟨fun ⟨named, required, keyed⟩ => ⟨named, required, keyed⟩,
      fun ⟨named, required, keyed⟩ => ⟨named, required, keyed⟩⟩

structure Table (V : Type u) where
  columns : List (Column V)
  rows : List (Row V)
  constrained : Constrained columns rows

namespace Table

def names (t : Table V) : List String := t.columns.map Column.name

theorem mem_names {t : Table V} {c : Column V} (mem : c ∈ t.columns) : c.name ∈ t.names :=
  List.mem_map_of_mem mem

def empty (columns : List (Column V)) (named : (columns.map Column.name).Nodup) : Table V where
  columns
  rows := []
  constrained := ⟨named, fun _ _ _ _ absent => absurd absent List.not_mem_nil,
    fun _ _ _ => List.nodup_nil⟩

end Table

theorem Constrained.of_agree {columns : List (Column V)} {rows rows' : List (Row V)}
    {constrainedColumns : List String} (h : Constrained columns rows)
    (covers : ∀ c ∈ columns, c.notNull = true ∨ c.primary = true → c.name ∈ constrainedColumns)
    (agree : Agree constrainedColumns rows rows') : Constrained columns rows' where
  named := h.named
  required := by
    intro c mem notNull r' mem'
    obtain ⟨r, old, same⟩ := exists_of_forall₂_left agree mem'
    rw [same c.name (covers c mem (.inl notNull))]
    exact h.required c mem notNull r old
  keyed := by
    intro c mem primary
    have own : ∀ n ∈ [c.name], n ∈ constrainedColumns := by
      intro n here
      rw [List.mem_singleton.mp here]
      exact covers c mem (.inr primary)
    exact distinct_of_agree (agree.mono own) (h.keyed c mem primary)

/-- The clause after the name in `ALTER TABLE ... ADD COLUMN`. -/
structure TypeClause (V : Type u) where
  type : ColumnType
  default : Option V

def TypeClause.column (clause : TypeClause V) (name : String) : Column V :=
  ⟨name, clause.type, false, false, clause.default.map .literal⟩

/-- A column appended; the rows that are there hold its default. -/
def Table.addColumn (t : Table V) (name : String) (clause : TypeClause V)
    (fresh : name ∉ t.names) : Table V where
  columns := t.columns ++ [clause.column name]
  rows := t.rows.map (fun r => r.set name clause.default)
  constrained := by
    have kept : Agree t.names t.rows (t.rows.map (fun r => r.set name clause.default)) :=
      agree_map (fun r c mem => r.set_ne _ (fun same => fresh (same ▸ mem)))
    have old : Constrained t.columns (t.rows.map (fun r => r.set name clause.default)) :=
      t.constrained.of_agree (fun c mem _ => Table.mem_names mem) kept
    have free : (clause.column name).notNull = false ∧ (clause.column name).primary = false :=
      ⟨rfl, rfl⟩
    refine ⟨?_, ?_, ?_⟩
    · rw [List.map_append, List.nodup_append]
      refine ⟨old.named, List.nodup_singleton _, ?_⟩
      rintro n mem m here rfl
      have own : n = name := List.mem_singleton.mp here
      exact fresh (own ▸ mem)
    · intro c mem notNull
      rcases List.mem_append.mp mem with before | added
      · exact old.required c before notNull
      · rw [List.mem_singleton.mp added, free.1] at notNull
        cases notNull
    · intro c mem primary
      rcases List.mem_append.mp mem with before | added
      · exact old.keyed c before primary
      · rw [List.mem_singleton.mp added, free.2] at primary
        cases primary

theorem Table.addColumn_names (t : Table V) (name : String) (clause : TypeClause V)
    (fresh : name ∉ t.names) : (t.addColumn name clause fresh).names = t.names ++ [name] := by
  simp [Table.addColumn, Table.names, TypeClause.column]

theorem Table.addColumn_agree (t : Table V) (name : String) (clause : TypeClause V)
    (fresh : name ∉ t.names) : Agree t.names t.rows (t.addColumn name clause fresh).rows :=
  agree_map (fun r _ mem => r.set_ne _ (fun same => fresh (same ▸ mem)))

/-! ### Columns added where they are missing -/

namespace Table

def ensure (t : Table V) (name : String) (clause : TypeClause V) : Table V :=
  if fresh : name ∉ t.names then t.addColumn name clause fresh else t

def ensureAll (t : Table V) (additions : List (String × TypeClause V)) : Table V :=
  additions.foldl (fun t a => t.ensure a.1 a.2) t

theorem ensure_present {t : Table V} {name : String} (mem : name ∈ t.names)
    (clause : TypeClause V) : t.ensure name clause = t :=
  dif_neg (not_not_intro mem)

theorem ensure_absent {t : Table V} {name : String} (fresh : name ∉ t.names)
    (clause : TypeClause V) : t.ensure name clause = t.addColumn name clause fresh :=
  dif_pos fresh

theorem mem_ensure_names {t : Table V} {name n : String} {clause : TypeClause V} :
    n ∈ (t.ensure name clause).names ↔ n ∈ t.names ∨ n = name := by
  by_cases mem : name ∈ t.names
  · rw [ensure_present mem]
    exact ⟨.inl, fun h => h.elim id (fun same => same ▸ mem)⟩
  · rw [ensure_absent mem, addColumn_names, List.mem_append, List.mem_singleton]

theorem ensure_agree (t : Table V) (name : String) (clause : TypeClause V) :
    Agree t.names t.rows (t.ensure name clause).rows := by
  by_cases mem : name ∈ t.names
  · rw [ensure_present mem]
    exact .refl _ _
  · rw [ensure_absent mem]
    exact t.addColumn_agree name clause mem

theorem ensureAll_cons (t : Table V) (a : String × TypeClause V)
    (rest : List (String × TypeClause V)) :
    t.ensureAll (a :: rest) = (t.ensure a.1 a.2).ensureAll rest :=
  rfl

theorem mem_ensureAll_names {t : Table V} {additions : List (String × TypeClause V)} {n : String} :
    n ∈ (t.ensureAll additions).names ↔ n ∈ t.names ∨ n ∈ additions.map Prod.fst := by
  induction additions generalizing t with
  | nil => simp [ensureAll]
  | cons a rest ih =>
    rw [ensureAll_cons, ih, mem_ensure_names, List.map_cons, List.mem_cons, or_assoc]

theorem mem_ensureAll_columns {t : Table V} {additions : List (String × TypeClause V)}
    {c : Column V} (mem : c ∈ (t.ensureAll additions).columns) :
    c ∈ t.columns ∨ ∃ a ∈ additions, c = a.2.column a.1 := by
  induction additions generalizing t with
  | nil => exact .inl mem
  | cons a rest ih =>
    rw [ensureAll_cons] at mem
    rcases ih mem with before | ⟨b, later, same⟩
    · by_cases present : a.1 ∈ t.names
      · rw [ensure_present present] at before
        exact .inl before
      · rw [ensure_absent present] at before
        rcases List.mem_append.mp before with old | added
        · exact .inl old
        · exact .inr ⟨a, List.mem_cons_self, List.mem_singleton.mp added⟩
    · exact .inr ⟨b, List.mem_cons_of_mem a later, same⟩

theorem ensureAll_agree (t : Table V) (additions : List (String × TypeClause V)) :
    Agree t.names t.rows (t.ensureAll additions).rows := by
  induction additions generalizing t with
  | nil => exact .refl _ _
  | cons a rest ih =>
    rw [ensureAll_cons]
    exact (t.ensure_agree a.1 a.2).trans (ih _) (fun c mem => mem_ensure_names.mpr (.inl mem))

/-- The rows that were there hold the default in an added column. -/
theorem ensureAll_added {t : Table V} {additions : List (String × TypeClause V)} {n : String}
    {v : Option V} (default : ∀ a ∈ additions, a.1 = n → a.2.default = v) (fresh : n ∉ t.names)
    (added : n ∈ additions.map Prod.fst) : ∀ r ∈ (t.ensureAll additions).rows, r n = v := by
  induction additions generalizing t with
  | nil => cases added
  | cons a rest ih =>
    obtain ⟨head, tail⟩ := List.forall_mem_cons.mp default
    rw [ensureAll_cons]
    by_cases own : a.1 = n
    · have absent : a.1 ∉ t.names := own ▸ fresh
      have set : ∀ r ∈ (t.ensure a.1 a.2).rows, r n = v := by
        rw [ensure_absent absent]
        intro r mem
        obtain ⟨q, _, rfl⟩ := List.mem_map.mp mem
        rw [← own, Row.set_self]
        exact head own
      have kept := (t.ensure a.1 a.2).ensureAll_agree rest
      intro r mem
      obtain ⟨q, old, same⟩ := exists_of_forall₂_left kept mem
      rw [same n (mem_ensure_names.mpr (.inr own.symm))]
      exact set q old
    · have later : n ∈ rest.map Prod.fst :=
        (List.mem_cons.mp added).resolve_left (fun same => own same.symm)
      have absent : n ∉ (t.ensure a.1 a.2).names := fun mem =>
        (mem_ensure_names.mp mem).elim fresh (fun same => own same.symm)
      exact ih tail absent later

end Table

/-! ### Indexes -/

/-- `WHERE column IN (among)`. -/
structure Filter (V : Type u) where
  column : String
  among : List V
deriving DecidableEq

structure Index (V : Type u) where
  table : String
  columns : List String
  unique : Bool
  filter : Option (Filter V)
deriving DecidableEq

namespace Index

variable [DecidableEq V]

def covers (i : Index V) (r : Row V) : Bool :=
  match i.filter with
  | none => true
  | some f =>
    match r f.column with
    | none => false
    | some v => decide (v ∈ f.among)

def mentions (i : Index V) : List String := i.columns ++ (i.filter.map Filter.column).toList

/-- No two rows of the index have one key. -/
def Separates (i : Index V) (rows : List (Row V)) : Prop :=
  i.unique = true → Distinct i.columns (rows.filter i.covers)

instance (i : Index V) (rows : List (Row V)) : Decidable (i.Separates rows) :=
  inferInstanceAs (Decidable (_ → _))

/-- What SQLite upholds of an index on a table. -/
structure Fits (i : Index V) (t : Table V) : Prop where
  columns : ∀ c ∈ i.mentions, c ∈ t.names
  separates : i.Separates t.rows

instance (i : Index V) (t : Table V) : Decidable (i.Fits t) :=
  decidable_of_iff ((∀ c ∈ i.mentions, c ∈ t.names) ∧ i.Separates t.rows)
    ⟨fun ⟨columns, separates⟩ => ⟨columns, separates⟩,
      fun ⟨columns, separates⟩ => ⟨columns, separates⟩⟩

theorem covers_congr {i : Index V} {r r' : Row V} (agree : ∀ c ∈ i.mentions, r' c = r c) :
    i.covers r' = i.covers r := by
  unfold covers
  split
  · rfl
  · rename_i f filter
    rw [agree f.column (by simp [mentions, filter])]

theorem separates_of_agree {i : Index V} {rows rows' : List (Row V)}
    (agree : Agree i.mentions rows rows') (separates : i.Separates rows) : i.Separates rows' := by
  intro unique
  have covered : Agree i.mentions (rows.filter i.covers) (rows'.filter i.covers) := by
    clear separates
    induction agree with
    | nil => exact List.Forall₂.nil
    | @cons r r' _ _ head _ ih =>
      by_cases here : i.covers r = true
      · rw [List.filter_cons_of_pos here,
          List.filter_cons_of_pos ((covers_congr head).trans here)]
        exact List.Forall₂.cons head ih
      · rw [List.filter_cons_of_neg here,
          List.filter_cons_of_neg (by rw [covers_congr head]; exact here)]
        exact ih
  exact distinct_of_agree (covered.mono (fun c mem => List.mem_append_left _ mem))
    (separates unique)

theorem separates_nil (i : Index V) : i.Separates [] := fun _ => List.nodup_nil

theorem Fits.of_agree {i : Index V} {t t' : Table V} (fits : i.Fits t)
    (names : ∀ c ∈ i.mentions, c ∈ t'.names) (agree : Agree i.mentions t.rows t'.rows) :
    i.Fits t' :=
  ⟨names, separates_of_agree agree fits.separates⟩

theorem Fits.addColumn {i : Index V} {t : Table V} (fits : i.Fits t) (name : String)
    (clause : TypeClause V) (fresh : name ∉ t.names) : i.Fits (t.addColumn name clause fresh) := by
  refine fits.of_agree ?_ ((t.addColumn_agree name clause fresh).mono fits.columns)
  intro c mem
  rw [Table.addColumn_names]
  exact List.mem_append_left _ (fits.columns c mem)

end Index

end

end Sql
