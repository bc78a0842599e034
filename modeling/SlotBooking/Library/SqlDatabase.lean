import SlotBooking.Library.Effect
import SlotBooking.Library.InsertionMap
import SlotBooking.Library.Sql

/-! A SQLite database: tables and indexes under one name space. The statements of a
migration either fail or leave a database in which every index still fits its table. -/

universe u

namespace Sql

inductive Error where
  | noSuchTable (name : String)
  | noSuchColumn
  | duplicateColumn
  | nameTaken (name : String)
  | constraintFailed
  | malformedJson
deriving DecidableEq

structure Database (V : Type u) [DecidableEq V] where
  tables : InsertionMap String (Table V)
  indexes : InsertionMap String (Index V)
  apart : ∀ n, tables.get n ≠ none → indexes.get n = none
  indexed : ∀ n i, indexes.get n = some i → ∃ t, tables.get i.table = some t ∧ i.Fits t

variable {V : Type u} [DecidableEq V]

namespace Database

def empty : Database V where
  tables := InsertionMap.empty
  indexes := InsertionMap.empty
  apart := fun _ _ => rfl
  indexed := nofun

theorem ext {db db' : Database V} (tables : db.tables = db'.tables)
    (indexes : db.indexes = db'.indexes) : db = db' := by
  cases db
  cases db'
  cases tables
  cases indexes
  rfl

def putTable (db : Database V) (name : String) (t : Table V) (free : db.indexes.get name = none)
    (fits : ∀ n i, db.indexes.get n = some i → i.table = name → i.Fits t) : Database V where
  tables := db.tables.set name t
  indexes := db.indexes
  apart := by
    intro n present
    rw [InsertionMap.get_set] at present
    by_cases own : n = name
    · rw [own]
      exact free
    · rw [if_neg own] at present
      exact db.apart n present
  indexed := by
    intro n i found
    rw [InsertionMap.get_set]
    by_cases own : i.table = name
    · exact ⟨t, if_pos own, fits n i found own⟩
    · rw [if_neg own]
      exact db.indexed n i found

def putIndex (db : Database V) (name : String) (i : Index V) (free : db.tables.get name = none)
    (fits : ∃ t, db.tables.get i.table = some t ∧ i.Fits t) : Database V where
  tables := db.tables
  indexes := db.indexes.set name i
  apart := by
    intro n present
    have other : n ≠ name := fun own => present (own ▸ free)
    rw [InsertionMap.get_set_ne _ _ other]
    exact db.apart n present
  indexed := by
    intro n j found
    rw [InsertionMap.get_set] at found
    by_cases own : n = name
    · rw [if_pos own] at found
      cases found
      exact fits
    · rw [if_neg own] at found
      exact db.indexed n j found

theorem fits_of_get {db : Database V} {n name : String} {i : Index V} {t : Table V}
    (found : db.indexes.get n = some i) (own : i.table = name)
    (table : db.tables.get name = some t) : i.Fits t := by
  obtain ⟨u, same, fits⟩ := db.indexed n i found
  rw [own, table] at same
  cases same
  exact fits

theorem free_of_get {db : Database V} {name : String} {t : Table V}
    (table : db.tables.get name = some t) : db.indexes.get name = none :=
  db.apart name (by rw [table]; exact Option.some_ne_none t)

/-! ### Statements -/

/-- `CREATE TABLE IF NOT EXISTS`. -/
def createTable (name : String) (columns : List (Column V)) (db : Database V) :
    Except Error (Database V) :=
  match absent : db.tables.get name with
  | some _ => .ok db
  | none =>
    if free : db.indexes.get name = none then
      if named : (columns.map Column.name).Nodup then
        .ok (db.putTable name (Table.empty columns named) free (by
          intro n i found own
          obtain ⟨_, table, _⟩ := db.indexed n i found
          rw [own, absent] at table
          cases table))
      else .error .duplicateColumn
    else .error (.nameTaken name)

/-- `CREATE [UNIQUE] INDEX IF NOT EXISTS`. The table is looked up first. -/
def createIndex (name : String) (i : Index V) (db : Database V) : Except Error (Database V) :=
  match table : db.tables.get i.table with
  | none => .error (.noSuchTable i.table)
  | some t =>
    if free : db.tables.get name = none then
      match db.indexes.get name with
      | some _ => .ok db
      | none =>
        if fits : i.Fits t then .ok (db.putIndex name i free ⟨t, table, fits⟩)
        else .error (if ∀ c ∈ i.mentions, c ∈ t.names then .constraintFailed else .noSuchColumn)
    else .error (.nameTaken name)

/-- `PRAGMA table_info`: no rows for a table that is not there. -/
def tableInfo (db : Database V) (name : String) : List (Column V) :=
  match db.tables.get name with
  | none => []
  | some t => t.columns

/-- `ALTER TABLE ... ADD COLUMN`. -/
def addColumn (name column : String) (clause : TypeClause V) (db : Database V) :
    Except Error (Database V) :=
  match table : db.tables.get name with
  | none => .error (.noSuchTable name)
  | some t =>
    if fresh : column ∉ t.names then
      .ok (db.putTable name (t.addColumn column clause fresh) (free_of_get table)
        (fun _ _ found own => (fits_of_get found own table).addColumn column clause fresh))
    else .error .duplicateColumn

/-- The rows of a table replaced, where its constraints and indexes allow it. -/
def replaceRows (name : String) (rows : List (Row V)) (db : Database V) :
    Except Error (Database V) :=
  match table : db.tables.get name with
  | none => .error (.noSuchTable name)
  | some t =>
    if sound : Constrained t.columns rows ∧
        ∀ i ∈ db.indexes.values, i.table = name → i.Separates rows then
      .ok (db.putTable name ⟨t.columns, rows, sound.1⟩ (free_of_get table)
        (fun _ _ found own => ⟨(fits_of_get found own table).columns,
          sound.2 _ (InsertionMap.mem_values_of_get found) own⟩))
    else .error .constraintFailed

/-- What an update makes of one row. -/
def updateRow (column : String) (applies : Row V → Bool)
    (value : Row V → Except Error (Option V)) (r : Row V) : Except Error (Row V) :=
  if applies r then (value r).map (r.set column) else .ok r

/-- `UPDATE name SET column = value WHERE applies`. -/
def update (name column : String) (applies : Row V → Bool)
    (value : Row V → Except Error (Option V)) (db : Database V) : Except Error (Database V) :=
  match db.tables.get name with
  | none => .error (.noSuchTable name)
  | some t =>
    if column ∈ t.names then
      t.rows.mapM (updateRow column applies value) >>= fun rows => db.replaceRows name rows
    else .error .noSuchColumn

/-- Everything that is there stays as it is. -/
structure Extends (db db' : Database V) : Prop where
  tables : ∀ n t, db.tables.get n = some t → db'.tables.get n = some t
  indexes : ∀ n i, db.indexes.get n = some i → db'.indexes.get n = some i

theorem Extends.refl (db : Database V) : Extends db db :=
  ⟨fun _ _ found => found, fun _ _ found => found⟩

theorem Extends.trans {db db' db'' : Database V} (first : Extends db db')
    (later : Extends db' db'') : Extends db db'' where
  tables := fun n t found => later.tables n t (first.tables n t found)
  indexes := fun n i found => later.indexes n i (first.indexes n i found)

theorem Extends.table_absent {db db' : Database V} (more : Extends db db') {n : String}
    (absent : db'.tables.get n = none) : db.tables.get n = none := by
  by_contra present
  obtain ⟨t, found⟩ := Option.ne_none_iff_exists'.mp present
  rw [more.tables n t found] at absent
  cases absent

theorem Extends.index_absent {db db' : Database V} (more : Extends db db') {n : String}
    (absent : db'.indexes.get n = none) : db.indexes.get n = none := by
  by_contra present
  obtain ⟨i, found⟩ := Option.ne_none_iff_exists'.mp present
  rw [more.indexes n i found] at absent
  cases absent

theorem createTable_present {db : Database V} {name : String} {t : Table V}
    (found : db.tables.get name = some t) (columns : List (Column V)) :
    db.createTable name columns = .ok db := by
  unfold createTable
  split
  · rfl
  · rename_i absent
    rw [found] at absent
    cases absent

theorem createTable_absent {db : Database V} {name : String} {columns : List (Column V)}
    (absent : db.tables.get name = none) (free : db.indexes.get name = none)
    (named : (columns.map Column.name).Nodup) :
    ∃ db', db.createTable name columns = .ok db' ∧
      db'.tables = db.tables.set name (Table.empty columns named) ∧ db'.indexes = db.indexes := by
  unfold createTable
  split
  · rename_i found
    rw [absent] at found
    cases found
  · rw [dif_pos free, dif_pos named]
    exact ⟨_, rfl, rfl, rfl⟩

theorem createTable_eq_ok {db db' : Database V} {name : String} {columns : List (Column V)}
    (done : db.createTable name columns = .ok db') :
    (db' = db ∧ db.tables.get name ≠ none) ∨ (db.tables.get name = none ∧
      ∃ named, db'.tables = db.tables.set name (Table.empty columns named) ∧
        db'.indexes = db.indexes) := by
  cases found : db.tables.get name with
  | some t =>
    rw [createTable_present found] at done
    cases done
    exact .inl ⟨rfl, Option.some_ne_none t⟩
  | none =>
    unfold createTable at done
    split at done
    · rename_i present
      rw [found] at present
      cases present
    · split at done
      · split at done
        · rename_i named
          cases done
          exact .inr ⟨rfl, named, rfl, rfl⟩
        · cases done
      · cases done

theorem createIndex_present {db : Database V} {name : String} {i j : Index V} {t : Table V}
    (table : db.tables.get i.table = some t) (found : db.indexes.get name = some j) :
    db.createIndex name i = .ok db := by
  have free : db.tables.get name = none := by
    by_contra present
    rw [db.apart name present] at found
    cases found
  unfold createIndex
  split
  · rename_i absent
    rw [table] at absent
    cases absent
  · rw [dif_pos free, found]

theorem createIndex_absent {db : Database V} {name : String} {i : Index V} {t : Table V}
    (table : db.tables.get i.table = some t) (free : db.tables.get name = none)
    (absent : db.indexes.get name = none) (fits : i.Fits t) :
    ∃ db', db.createIndex name i = .ok db' ∧ db'.tables = db.tables ∧
      db'.indexes = db.indexes.set name i := by
  unfold createIndex
  split
  · rename_i missing
    rw [table] at missing
    cases missing
  · rename_i u same
    rw [table] at same
    cases same
    simp only [dif_pos free, absent, dif_pos fits]
    exact ⟨_, rfl, rfl, rfl⟩

theorem createIndex_eq_ok {db db' : Database V} {name : String} {i : Index V}
    (done : db.createIndex name i = .ok db') : db.tables.get i.table ≠ none ∧
      ((db' = db ∧ db.indexes.get name ≠ none) ∨ (db.indexes.get name = none ∧
        db'.tables = db.tables ∧ db'.indexes = db.indexes.set name i)) := by
  unfold createIndex at done
  split at done
  · cases done
  · rename_i t table
    refine ⟨by rw [table]; exact Option.some_ne_none t, ?_⟩
    split at done
    · split at done
      · rename_i j found
        cases done
        exact .inl ⟨rfl, by rw [found]; exact Option.some_ne_none j⟩
      · rename_i absent
        split at done
        · cases done
          exact .inr ⟨absent, rfl, rfl⟩
        · cases done
    · cases done

end Database

/-! ### Runs of definitions -/

inductive Statement (V : Type u) where
  | createTable (name : String) (columns : List (Column V))
  | createIndex (name : String) (index : Index V)

namespace Statement

def exec : Statement V → Database V → Except Error (Database V)
  | .createTable name columns, db => db.createTable name columns
  | .createIndex name index, db => db.createIndex name index

def run (statements : List (Statement V)) (db : Database V) : Except Error (Database V) :=
  statements.foldlM (fun db s => s.exec db) db

/-- What the statement is for is there. -/
def Established (db : Database V) : Statement V → Prop
  | .createTable name _ => db.tables.get name ≠ none
  | .createIndex name index => db.tables.get index.table ≠ none ∧ db.indexes.get name ≠ none

theorem run_cons (s : Statement V) (rest : List (Statement V)) (db : Database V) :
    run (s :: rest) db = s.exec db >>= run rest :=
  List.foldlM_cons

theorem exec_extends {s : Statement V} {db db' : Database V} (done : s.exec db = .ok db') :
    db.Extends db' ∧ s.Established db' := by
  cases s with
  | createTable name columns =>
    rcases Database.createTable_eq_ok done with ⟨rfl, present⟩ | ⟨absent, named, tables, indexes⟩
    · exact ⟨.refl db', present⟩
    · refine ⟨⟨?_, ?_⟩, ?_⟩
      · intro n t found
        rw [tables]
        exact InsertionMap.get_set_of_get absent _ found
      · intro n i found
        rw [indexes, found]
      · rw [Established, tables, InsertionMap.get_set_self]
        exact Option.some_ne_none _
  | createIndex name index =>
    obtain ⟨table, ⟨rfl, present⟩ | ⟨absent, tables, indexes⟩⟩ := Database.createIndex_eq_ok done
    · exact ⟨.refl db', table, present⟩
    · refine ⟨⟨?_, ?_⟩, ?_⟩
      · intro n t found
        rw [tables, found]
      · intro n i found
        rw [indexes]
        exact InsertionMap.get_set_of_get absent _ found
      · rw [Established, tables, indexes, InsertionMap.get_set_self]
        exact ⟨table, Option.some_ne_none _⟩

theorem Established.mono {s : Statement V} {db db' : Database V} (more : db.Extends db')
    (h : s.Established db) : s.Established db' := by
  cases s with
  | createTable name columns =>
    obtain ⟨t, found⟩ := Option.ne_none_iff_exists'.mp h
    rw [Established, more.tables name t found]
    exact Option.some_ne_none t
  | createIndex name index =>
    obtain ⟨t, table⟩ := Option.ne_none_iff_exists'.mp h.1
    obtain ⟨i, found⟩ := Option.ne_none_iff_exists'.mp h.2
    rw [Established, more.tables _ t table, more.indexes name i found]
    exact ⟨Option.some_ne_none t, Option.some_ne_none i⟩

theorem run_extends {statements : List (Statement V)} {db db' : Database V}
    (done : run statements db = .ok db') :
    db.Extends db' ∧ ∀ s ∈ statements, s.Established db' := by
  induction statements generalizing db with
  | nil =>
    cases done
    exact ⟨.refl _, fun _ mem => absurd mem List.not_mem_nil⟩
  | cons s rest ih =>
    rw [run_cons] at done
    obtain ⟨m, first, later⟩ := Effect.except_bind_eq_ok.mp done
    obtain ⟨step, made⟩ := exec_extends first
    obtain ⟨run, established⟩ := ih later
    exact ⟨step.trans run, List.forall_mem_cons.mpr ⟨made.mono run, established⟩⟩

theorem exec_established {s : Statement V} {db : Database V} (h : s.Established db) :
    s.exec db = .ok db := by
  cases s with
  | createTable name columns =>
    obtain ⟨t, found⟩ := Option.ne_none_iff_exists'.mp h
    exact Database.createTable_present found columns
  | createIndex name index =>
    obtain ⟨t, table⟩ := Option.ne_none_iff_exists'.mp h.1
    obtain ⟨i, found⟩ := Option.ne_none_iff_exists'.mp h.2
    exact Database.createIndex_present table found

theorem run_established {statements : List (Statement V)} {db : Database V}
    (h : ∀ s ∈ statements, s.Established db) : run statements db = .ok db := by
  induction statements with
  | nil => rfl
  | cons s rest ih =>
    obtain ⟨head, tail⟩ := List.forall_mem_cons.mp h
    rw [run_cons, exec_established head]
    exact ih tail

end Statement

end Sql
