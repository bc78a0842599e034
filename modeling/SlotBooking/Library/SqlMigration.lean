import SlotBooking.Library.SqlDatabase

/-! Where a migration arrives: the schema a run of definitions aims at, columns added where
they are missing, and one column filled from another. -/

universe u

namespace Sql

variable {V : Type u} [DecidableEq V]

/-- A schema with its rows, read by name. -/
structure Target (V : Type u) [DecidableEq V] where
  table : String → Option (Table V)
  index : String → Option (Index V)
  apart : ∀ n, table n ≠ none → index n = none
  indexed : ∀ n i, index n = some i → ∃ t, table i.table = some t ∧ i.Fits t

structure Database.Below (db : Database V) (goal : Target V) : Prop where
  tables : ∀ n t, db.tables.get n = some t → goal.table n = some t
  indexes : ∀ n i, db.indexes.get n = some i → goal.index n = some i

namespace Database

variable {db : Database V} {goal : Target V}

theorem Below.table_absent (below : db.Below goal) {n : String} (aim : goal.table n = none) :
    db.tables.get n = none := by
  by_contra present
  obtain ⟨t, found⟩ := Option.ne_none_iff_exists'.mp present
  rw [below.tables n t found] at aim
  cases aim

theorem Below.index_absent (below : db.Below goal) {n : String} (aim : goal.index n = none) :
    db.indexes.get n = none := by
  by_contra present
  obtain ⟨i, found⟩ := Option.ne_none_iff_exists'.mp present
  rw [below.indexes n i found] at aim
  cases aim

/-- A name that the goal has for a table is not taken by an index. -/
theorem Below.index_free (below : db.Below goal) {n : String} {t : Table V}
    (aim : goal.table n = some t) : db.indexes.get n = none :=
  below.index_absent (goal.apart n (by rw [aim]; exact Option.some_ne_none t))

theorem Below.table_free (below : db.Below goal) {n : String} {i : Index V}
    (aim : goal.index n = some i) : db.tables.get n = none := by
  apply below.table_absent
  by_contra present
  rw [goal.apart n present] at aim
  cases aim

end Database

namespace Statement

/-- What the statement makes, where its name is free, is what the goal holds. -/
def Aims (goal : Target V) (db : Database V) : Statement V → Prop
  | .createTable name columns => ∃ t, goal.table name = some t ∧
      (db.tables.get name = none → ∃ named, t = Table.empty columns named)
  | .createIndex name index => ∃ i, goal.index name = some i ∧
      (db.indexes.get name = none → i = index)

/-- No index is defined before its table. -/
def Ordered : List String → List (Statement V) → Prop
  | _, [] => True
  | known, .createTable name _ :: rest => Ordered (name :: known) rest
  | known, .createIndex _ index :: rest => index.table ∈ known ∧ Ordered known rest

variable {goal : Target V}

theorem Aims.mono {s : Statement V} {db db' : Database V} (more : db.Extends db')
    (h : s.Aims goal db) : s.Aims goal db' := by
  cases s with
  | createTable name columns =>
    obtain ⟨t, aim, fresh⟩ := h
    exact ⟨t, aim, fun absent => fresh (more.table_absent absent)⟩
  | createIndex name index =>
    obtain ⟨i, aim, fresh⟩ := h
    exact ⟨i, aim, fun absent => fresh (more.index_absent absent)⟩

theorem createTable_reaches {db : Database V} {name : String} {columns : List (Column V)}
    (below : db.Below goal) (aims : (createTable name columns).Aims goal db) :
    ∃ db', db.createTable name columns = .ok db' ∧ db'.Below goal := by
  obtain ⟨t, aim, fresh⟩ := aims
  cases found : db.tables.get name with
  | some u => exact ⟨db, Database.createTable_present found columns, below⟩
  | none =>
    obtain ⟨named, rfl⟩ := fresh found
    obtain ⟨db', done, tables, indexes⟩ :=
      Database.createTable_absent found (below.index_free aim) named
    refine ⟨db', done, ?_, by rw [indexes]; exact below.indexes⟩
    intro n u here
    rw [tables, InsertionMap.get_set] at here
    split at here
    · rename_i own
      cases here
      rw [own, aim]
    · exact below.tables n u here

theorem createIndex_reaches {db : Database V} {name : String} {index : Index V}
    (below : db.Below goal) (aims : (createIndex name index).Aims goal db)
    (known : db.tables.get index.table ≠ none) :
    ∃ db', db.createIndex name index = .ok db' ∧ db'.Below goal := by
  obtain ⟨t, table⟩ := Option.ne_none_iff_exists'.mp known
  obtain ⟨i, aim, fresh⟩ := aims
  cases found : db.indexes.get name with
  | some j => exact ⟨db, Database.createIndex_present table found, below⟩
  | none =>
    have same : i = index := fresh found
    subst same
    have fits : i.Fits t := by
      obtain ⟨u, goalTable, fits⟩ := goal.indexed name i aim
      rw [below.tables _ t table] at goalTable
      cases goalTable
      exact fits
    obtain ⟨db', done, tables, indexes⟩ :=
      Database.createIndex_absent table (below.table_free aim) found fits
    refine ⟨db', done, by rw [tables]; exact below.tables, ?_⟩
    intro n j here
    rw [indexes, InsertionMap.get_set] at here
    split at here
    · rename_i own
      cases here
      rw [own, aim]
    · exact below.indexes n j here

theorem run_reaches {statements : List (Statement V)} {known : List String} {db : Database V}
    (below : db.Below goal) (aims : ∀ s ∈ statements, s.Aims goal db)
    (ordered : Ordered known statements) (tables : ∀ n ∈ known, db.tables.get n ≠ none) :
    ∃ db', run statements db = .ok db' ∧ db'.Below goal := by
  induction statements generalizing db known with
  | nil => exact ⟨db, rfl, below⟩
  | cons s rest ih =>
    obtain ⟨head, tail⟩ := List.forall_mem_cons.mp aims
    cases s with
    | createTable name columns =>
      obtain ⟨m, first, below'⟩ := createTable_reaches below head
      obtain ⟨more, made⟩ := exec_extends (s := .createTable name columns) first
      have known' : ∀ n ∈ name :: known, m.tables.get n ≠ none :=
        List.forall_mem_cons.mpr ⟨made, fun n mem =>
          Established.mono (s := .createTable n []) more (tables n mem)⟩
      obtain ⟨db', later, done⟩ := ih below' (fun s mem => (tail s mem).mono more) ordered known'
      exact ⟨db', by rw [run_cons]; exact Effect.except_bind_eq_ok.mpr ⟨m, first, later⟩, done⟩
    | createIndex name index =>
      obtain ⟨m, first, below'⟩ := createIndex_reaches below head (tables _ ordered.1)
      obtain ⟨more, _⟩ := exec_extends (s := .createIndex name index) first
      have known' : ∀ n ∈ known, m.tables.get n ≠ none := fun n mem =>
        Established.mono (s := .createTable n []) more (tables n mem)
      obtain ⟨db', later, done⟩ :=
        ih below' (fun s mem => (tail s mem).mono more) ordered.2 known'
      exact ⟨db', by rw [run_cons]; exact Effect.except_bind_eq_ok.mpr ⟨m, first, later⟩, done⟩

/-- A run whose statements name everything the goal has beyond the start ends in the goal. -/
theorem run_target {statements : List (Statement V)} {db : Database V} (below : db.Below goal)
    (aims : ∀ s ∈ statements, s.Aims goal db) (ordered : Ordered [] statements)
    (tables : ∀ n t, goal.table n = some t → db.tables.get n = some t ∨
      ∃ columns, createTable n columns ∈ statements)
    (indexes : ∀ n i, goal.index n = some i → db.indexes.get n = some i ∨
      ∃ index, createIndex n index ∈ statements) :
    ∃ db', run statements db = .ok db' ∧ (∀ n, db'.tables.get n = goal.table n) ∧
      ∀ n, db'.indexes.get n = goal.index n := by
  obtain ⟨db', done, below'⟩ :=
    run_reaches below aims ordered (fun _ absent => absurd absent List.not_mem_nil)
  obtain ⟨more, established⟩ := run_extends done
  refine ⟨db', done, ?_, ?_⟩
  · intro n
    cases aim : goal.table n with
    | none => exact below'.table_absent aim
    | some t =>
      rcases tables n t aim with old | ⟨columns, mem⟩
      · exact more.tables n t old
      · obtain ⟨u, found⟩ := Option.ne_none_iff_exists'.mp (established _ mem)
        rw [found, ← aim, below'.tables n u found]
  · intro n
    cases aim : goal.index n with
    | none => exact below'.index_absent aim
    | some i =>
      rcases indexes n i aim with old | ⟨index, mem⟩
      · exact more.indexes n i old
      · obtain ⟨j, found⟩ := Option.ne_none_iff_exists'.mp (established _ mem).2
        rw [found, ← aim, below'.indexes n j found]

end Statement

/-! ### Columns added where they are missing -/

theorem Database.addColumn_ok {db : Database V} {name column : String} {t : Table V}
    (clause : TypeClause V) (table : db.tables.get name = some t) (fresh : column ∉ t.names) :
    ∃ db', db.addColumn name column clause = .ok db' ∧
      db'.tables = db.tables.set name (t.addColumn column clause fresh) ∧
      db'.indexes = db.indexes := by
  unfold Database.addColumn
  split
  · rename_i absent
    rw [table] at absent
    cases absent
  · rename_i u same
    rw [table] at same
    cases same
    rw [dif_pos fresh]
    exact ⟨_, rfl, rfl, rfl⟩

/-! ### One column filled -/

omit [DecidableEq V] in
theorem Database.updateRow_ok {column : String} {applies : Row V → Bool}
    {value : Row V → Except Error (Option V)} {r r' : Row V}
    (done : Database.updateRow column applies value r = .ok r') :
    (applies r = false ∧ r' = r) ∨ (applies r = true ∧ ∃ v, value r = .ok v ∧ r' = r.set column v) := by
  unfold Database.updateRow at done
  split at done
  · rename_i here
    cases ran : value r with
    | error e =>
      rw [ran] at done
      cases done
    | ok v =>
      rw [ran] at done
      cases done
      exact .inr ⟨here, v, rfl, rfl⟩
  · rename_i skipped
    cases done
    exact .inl ⟨by simpa using skipped, rfl⟩

omit [DecidableEq V] in
theorem Database.updateRow_ne {column c : String} {applies : Row V → Bool}
    {value : Row V → Except Error (Option V)} {r r' : Row V}
    (done : Database.updateRow column applies value r = .ok r') (other : c ≠ column) :
    r' c = r c := by
  rcases Database.updateRow_ok done with ⟨_, rfl⟩ | ⟨_, v, _, rfl⟩
  · rfl
  · exact r.set_ne v other

namespace Database

variable {name column : String} {applies : Row V → Bool} {value : Row V → Except Error (Option V)}

theorem update_eq_ok {db db' : Database V} (done : db.update name column applies value = .ok db') :
    ∃ t rows sound, db.tables.get name = some t ∧
      List.Forall₂ (fun r r' => updateRow column applies value r = .ok r') t.rows rows ∧
      db'.tables = db.tables.set name ⟨t.columns, rows, sound⟩ ∧ db'.indexes = db.indexes := by
  unfold update at done
  split at done
  · cases done
  · rename_i t table
    split at done
    · obtain ⟨rows, ran, replaced⟩ := Effect.except_bind_eq_ok.mp done
      refine ⟨t, rows, ?_⟩
      unfold replaceRows at replaced
      split at replaced
      · cases replaced
      · rename_i u same
        rw [table] at same
        cases same
        split at replaced
        · rename_i sound
          cases replaced
          exact ⟨sound.1, table, Effect.except_mapM_eq_ok.mp ran, rfl, rfl⟩
        · cases replaced
    · cases done

theorem update_ok {db : Database V} {t : Table V} {rows : List (Row V)}
    (table : db.tables.get name = some t) (known : column ∈ t.names)
    (ran : List.Forall₂ (fun r r' => updateRow column applies value r = .ok r') t.rows rows)
    (sound : Constrained t.columns rows)
    (separates : ∀ n i, db.indexes.get n = some i → i.table = name → i.Separates rows) :
    ∃ db', db.update name column applies value = .ok db' ∧
      db'.tables = db.tables.set name ⟨t.columns, rows, sound⟩ ∧ db'.indexes = db.indexes := by
  have allowed : Constrained t.columns rows ∧
      ∀ i ∈ db.indexes.values, i.table = name → i.Separates rows := by
    refine ⟨sound, fun i mem own => ?_⟩
    obtain ⟨n, found⟩ := InsertionMap.exists_get_of_mem_values mem
    exact separates n i found own
  obtain ⟨db', replaced, made⟩ : ∃ db', db.replaceRows name rows = .ok db' ∧
      db'.tables = db.tables.set name ⟨t.columns, rows, sound⟩ ∧ db'.indexes = db.indexes := by
    unfold replaceRows
    split
    · rename_i absent
      rw [table] at absent
      cases absent
    · rename_i u same
      rw [table] at same
      cases same
      rw [dif_pos allowed]
      exact ⟨_, rfl, rfl, rfl⟩
  refine ⟨db', ?_, made⟩
  simp only [update, table, if_pos known]
  exact Effect.except_bind_eq_ok.mpr ⟨rows, Effect.except_mapM_eq_ok.mpr ran, replaced⟩

/-- An update which leaves every row as it is leaves the database as it is. -/
theorem update_fixed {db : Database V} {t : Table V} (table : db.tables.get name = some t)
    (known : column ∈ t.names)
    (fixed : ∀ r ∈ t.rows, updateRow column applies value r = .ok r) :
    db.update name column applies value = .ok db := by
  obtain ⟨db', done, tables, indexes⟩ := update_ok table known (List.forall₂_same.mpr fixed)
    t.constrained (fun _ _ found own => (fits_of_get found own table).separates)
  have same : db' = db := ext (tables.trans (InsertionMap.set_get table)) indexes
  rw [done, same]

/-- A column without constraints, which no index of the table reads, can take any values. -/
theorem update_free {db : Database V} {t : Table V} {rows : List (Row V)}
    (table : db.tables.get name = some t) (known : column ∈ t.names)
    (ran : List.Forall₂ (fun r r' => updateRow column applies value r = .ok r') t.rows rows)
    (plain : ∀ c ∈ t.columns, c.notNull = true ∨ c.primary = true → c.name ≠ column)
    (unread : ∀ n i, db.indexes.get n = some i → i.table = name → column ∉ i.mentions) :
    ∃ db' sound, db.update name column applies value = .ok db' ∧
      db'.tables = db.tables.set name ⟨t.columns, rows, sound⟩ ∧ db'.indexes = db.indexes := by
  have agree : ∀ columns : List String, column ∉ columns → Agree columns t.rows rows :=
    fun columns absent => List.Forall₂.imp
      (fun _ _ done c mem => updateRow_ne done (fun same : c = column => absent (same ▸ mem))) ran
  have others : column ∉ t.names.filter (fun n => n ≠ column) := by simp
  have sound : Constrained t.columns rows := by
    refine t.constrained.of_agree (fun c mem bound => ?_) (agree _ others)
    rw [List.mem_filter, decide_eq_true_iff]
    exact ⟨Table.mem_names mem, plain c mem bound⟩
  obtain ⟨db', done, tables, indexes⟩ := update_ok table known ran sound
    (fun n i found own => Index.separates_of_agree (agree _ (unread n i found own))
      (fits_of_get found own table).separates)
  exact ⟨db', sound, done, tables, indexes⟩

end Database

end Sql
