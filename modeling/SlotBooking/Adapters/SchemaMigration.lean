import SlotBooking.Adapters.Schema

/-! From which earlier databases the migration arrives at the declared schema. -/
namespace SlotBooking
namespace Schema

/-! ### Earlier databases -/

/-- A table with some of the columns that were introduced later still missing. -/
structure EarlierTable (d : SqliteTable) (t : Sql.Table SqlValue) : Prop where
  declared : ∀ c ∈ t.columns, c ∈ d.columns
  missing : ∀ c ∈ d.columns, c ∉ t.columns →
    ∃ a ∈ idempotentColumnAdditions, a.table = d.name ∧ a.column = c.name

/-- Nothing is asked of the rows, nor of what stands under the name of an index. -/
structure Earlier (db : Sql.Database SqlValue) : Prop where
  tables : ∀ n t, db.tables.get n = some t → ∃ d, declaredTables.get n = some d ∧ EarlierTable d t
  indexes : ∀ n i, db.indexes.get n = some i → declaredIndexes.get n ≠ none

/-- Every cell is kept, but for the NULL lane of a ticket. -/
def Keeps (db db' : Sql.Database SqlValue) : Prop :=
  ∀ n t, db.tables.get n = some t → ∃ t', db'.tables.get n = some t' ∧
    List.Forall₂ (fun r r' => ∀ c ∈ t.names,
      r' c = r c ∨ (n = "tickets" ∧ c = "lane" ∧ r c = none)) t.rows t'.rows

/-- The columns up to their order, and the definitions of the indexes. -/
def SameSchema (db db' : Sql.Database SqlValue) : Prop :=
  ∀ n, Option.Rel (fun t u => t.columns.Perm u.columns) (db.tables.get n) (db'.tables.get n) ∧
    db.indexes.get n = db'.indexes.get n

def Converges (jsonExtract : JsonExtract) (db : Sql.Database SqlValue) : Prop :=
  ∃ db', ensureDurableObjectSchema jsonExtract db = .ok db' ∧
    ensureDurableObjectSchema jsonExtract db' = .ok db' ∧ Keeps db db' ∧
    ∃ fresh, ensureDurableObjectSchema jsonExtract .empty = .ok fresh ∧ SameSchema db' fresh

/-- The payload of a ticket without a lane can be read. -/
def Readable (jsonExtract : JsonExtract) (t : Sql.Table SqlValue) : Prop :=
  ∀ r ∈ t.rows, ("lane" ∈ t.names → r "lane" = none) → ∃ v, jsonExtract (r "payload") "$.lane" = .ok v

structure Migratable (jsonExtract : JsonExtract) (db : Sql.Database SqlValue) : Prop where
  appointed : ∀ t, db.tables.get "tickets" = some t → "appointment_at" ∈ t.names
  current : ∀ n i j, db.indexes.get n = some i → declaredIndexes.get n = some j → i = j
  separate : ∀ n i t, declaredIndexes.get n = some i → db.indexes.get n = none →
    db.tables.get i.table = some t → i.Separates t.rows
  readable : ∀ t, db.tables.get "tickets" = some t → Readable jsonExtract t

def SqliteTable.fresh (d : SqliteTable) : Sql.Table SqlValue := .empty d.columns d.named

variable {jsonExtract : JsonExtract} {db : Sql.Database SqlValue}

theorem earlier_fits (earlier : Earlier db) (ok : Migratable jsonExtract db) {n : String}
    {i : Sql.Index SqlValue} {t : Sql.Table SqlValue} (declared : declaredIndexes.get n = some i)
    (absent : db.indexes.get n = none) (table : db.tables.get i.table = some t) : i.Fits t := by
  refine ⟨?_, ok.separate n i t declared absent table⟩
  obtain ⟨d, mem, idx, own, _, rfl⟩ := declaredIndexes_get.mp declared
  obtain ⟨e, here, shape⟩ := earlier.tables d.name t table
  have same : e = d := Option.some.inj (here.symm.trans (declaredTables_get.mpr ⟨mem, rfl⟩))
  subst same
  intro c mentioned
  obtain ⟨col, inTable, rfl⟩ := List.mem_map.mp (e.covered idx own c mentioned)
  by_cases present : col ∈ t.columns
  · exact Sql.Table.mem_names present
  · obtain ⟨a, added, tableName, column⟩ := shape.missing col inTable present
    obtain ⟨tickets, appointment⟩ :=
      additions_indexed e mem idx own _ mentioned a added tableName column
    rw [appointment]
    exact ok.appointed t (tickets ▸ table)

/-- What the definitions arrive at: what was there, and the declared rest. -/
def goal (earlier : Earlier db) (ok : Migratable jsonExtract db) : Sql.Target SqlValue where
  table n := (db.tables.get n).or ((declaredTables.get n).map SqliteTable.fresh)
  index n := (db.indexes.get n).or (declaredIndexes.get n)
  apart := by
    intro n present
    have declared : ∃ d, declaredTables.get n = some d := by
      cases found : db.tables.get n with
      | some t =>
        obtain ⟨d, here, _⟩ := earlier.tables n t found
        exact ⟨d, here⟩
      | none =>
        rw [found, Option.none_or] at present
        obtain ⟨t, here⟩ := Option.ne_none_iff_exists'.mp present
        obtain ⟨d, same, _⟩ := Option.map_eq_some_iff.mp here
        exact ⟨d, same⟩
    obtain ⟨d, here⟩ := declared
    obtain ⟨mem, rfl⟩ := declaredTables_get.mp here
    have undeclared : declaredIndexes.get d.name = none := declared_apart d mem
    cases found : db.indexes.get d.name with
    | none => rw [Option.none_or, undeclared]
    | some i => exact absurd undeclared (earlier.indexes d.name i found)
  indexed := by
    intro n i aim
    cases found : db.indexes.get n with
    | some j =>
      rw [found, Option.some_or] at aim
      cases aim
      obtain ⟨t, table, fits⟩ := db.indexed n i found
      exact ⟨t, by rw [table, Option.some_or], fits⟩
    | none =>
      rw [found, Option.none_or] at aim
      cases table : db.tables.get i.table with
      | some t => exact ⟨t, Option.some_or, earlier_fits earlier ok aim found table⟩
      | none =>
        obtain ⟨d, mem, idx, own, _, rfl⟩ := declaredIndexes_get.mp aim
        have declared : declaredTables.get d.name = some d := declaredTables_get.mpr ⟨mem, rfl⟩
        refine ⟨d.fresh, ?_, d.covered idx own, Sql.Index.separates_nil _⟩
        change Option.or none ((declaredTables.get d.name).map SqliteTable.fresh) = _
        rw [declared]
        rfl

theorem goal_table (earlier : Earlier db) (ok : Migratable jsonExtract db) (n : String) :
    (goal earlier ok).table n =
      (db.tables.get n).or ((declaredTables.get n).map SqliteTable.fresh) :=
  rfl

theorem goal_index (earlier : Earlier db) (ok : Migratable jsonExtract db) (n : String) :
    (goal earlier ok).index n = (db.indexes.get n).or (declaredIndexes.get n) :=
  rfl

theorem definitions_ok (earlier : Earlier db) (ok : Migratable jsonExtract db) :
    ∃ db', Sql.Statement.run durableObjectDDL db = .ok db' ∧
      (∀ n, db'.tables.get n = (goal earlier ok).table n) ∧
      ∀ n, db'.indexes.get n = (goal earlier ok).index n := by
  refine Sql.Statement.run_target ⟨?_, ?_⟩ ?_ (ordered_tablesToDDL _ []) ?_ ?_
  · intro n t found
    rw [goal_table, found, Option.some_or]
  · intro n i found
    rw [goal_index, found, Option.some_or]
  · intro s mem
    obtain ⟨d, declared, rfl | ⟨idx, own, rfl⟩⟩ := mem_tablesToDDL.mp mem
    · have here : declaredTables.get d.name = some d := declaredTables_get.mpr ⟨declared, rfl⟩
      cases found : db.tables.get d.name with
      | some t =>
        refine ⟨t, by rw [goal_table, found, Option.some_or], fun absent => ?_⟩
        rw [found] at absent
        cases absent
      | none =>
        exact ⟨d.fresh, by rw [goal_table, found, here]; rfl, fun _ => ⟨d.named, rfl⟩⟩
    · have here : declaredIndexes.get idx.name = some (idx.on d.name) :=
        declaredIndexes_get.mpr ⟨d, declared, idx, own, rfl, rfl⟩
      cases found : db.indexes.get idx.name with
      | some i =>
        refine ⟨i, by rw [goal_index, found, Option.some_or], fun absent => ?_⟩
        rw [found] at absent
        cases absent
      | none => exact ⟨_, by rw [goal_index, found, here, Option.none_or], fun _ => rfl⟩
  · intro n t aim
    cases found : db.tables.get n with
    | some u =>
      rw [goal_table, found, Option.some_or] at aim
      exact .inl aim
    | none =>
      rw [goal_table, found, Option.none_or] at aim
      obtain ⟨d, here, _⟩ := Option.map_eq_some_iff.mp aim
      obtain ⟨mem, rfl⟩ := declaredTables_get.mp here
      exact .inr ⟨d.columns, mem_tablesToDDL.mpr ⟨d, mem, .inl rfl⟩⟩
  · intro n i aim
    cases found : db.indexes.get n with
    | some j =>
      rw [goal_index, found, Option.some_or] at aim
      exact .inl aim
    | none =>
      rw [goal_index, found, Option.none_or] at aim
      obtain ⟨d, mem, idx, own, rfl, rfl⟩ := declaredIndexes_get.mp aim
      exact .inr ⟨_, mem_tablesToDDL.mpr ⟨d, mem, .inr ⟨idx, own, rfl⟩⟩⟩

/-! ### Columns added -/

theorem ensureColumn_present {a : ColumnAddition} {t : Sql.Table SqlValue}
    (table : db.tables.get a.table = some t) (mem : a.column ∈ t.names) :
    ensureColumn a db = .ok db := by
  have info : db.tableInfo a.table = t.columns := by simp only [Sql.Database.tableInfo, table]
  have present : (t.columns.any (fun r => r.name = a.column)) = true := by
    simpa [Sql.Table.names] using mem
  simp only [ensureColumn, info, if_pos present]

theorem ensureColumn_ok {a : ColumnAddition} {t : Sql.Table SqlValue}
    (table : db.tables.get a.table = some t) :
    ∃ db', ensureColumn a db = .ok db' ∧ db'.indexes = db.indexes ∧
      ∀ n, db'.tables.get n =
        if n = a.table then some (t.ensure a.column a.type) else db.tables.get n := by
  by_cases mem : a.column ∈ t.names
  · refine ⟨db, ensureColumn_present table mem, rfl, fun n => ?_⟩
    rw [Sql.Table.ensure_present mem]
    split
    · rename_i own
      rw [own, table]
    · rfl
  · have info : db.tableInfo a.table = t.columns := by simp only [Sql.Database.tableInfo, table]
    have absent : ¬ (t.columns.any (fun r => r.name = a.column)) = true := by
      simpa [Sql.Table.names] using mem
    obtain ⟨db', done, tables, indexes⟩ := Sql.Database.addColumn_ok a.type table mem
    refine ⟨db', ?_, indexes, ?_⟩
    · simp only [ensureColumn, info, if_neg absent]
      exact done
    · intro n
      rw [tables, InsertionMap.get_set, Sql.Table.ensure_absent mem]

theorem addColumns_cons (a : ColumnAddition) (rest : List ColumnAddition) :
    addColumns (a :: rest) db = ensureColumn a db >>= addColumns rest :=
  List.foldlM_cons

theorem addColumns_present {additions : List ColumnAddition} {t : Sql.Table SqlValue}
    (present : ∀ a ∈ additions, db.tables.get a.table = some t ∧ a.column ∈ t.names) :
    addColumns additions db = .ok db := by
  induction additions with
  | nil => rfl
  | cons a rest ih =>
    obtain ⟨⟨table, mem⟩, tail⟩ := List.forall_mem_cons.mp present
    rw [addColumns_cons, ensureColumn_present table mem]
    exact ih tail

theorem addColumns_ok {additions : List ColumnAddition} {name : String} {t : Sql.Table SqlValue}
    (own : ∀ a ∈ additions, a.table = name) (table : db.tables.get name = some t) :
    ∃ db', addColumns additions db = .ok db' ∧ db'.indexes = db.indexes ∧
      ∀ n, db'.tables.get n = if n = name then
        some (t.ensureAll (additions.map (fun a => (a.column, a.type)))) else db.tables.get n := by
  induction additions generalizing db t with
  | nil =>
    refine ⟨db, rfl, rfl, fun n => ?_⟩
    split
    · rename_i same
      rw [same, table]
      rfl
    · rfl
  | cons a rest ih =>
    obtain ⟨rfl, tail⟩ := List.forall_mem_cons.mp own
    obtain ⟨m, first, firstIndexes, firstTables⟩ := ensureColumn_ok table
    obtain ⟨db', later, laterIndexes, laterTables⟩ :=
      ih tail ((firstTables a.table).trans (if_pos rfl))
    refine ⟨db', ?_, laterIndexes.trans firstIndexes, fun n => ?_⟩
    · rw [addColumns_cons]
      exact Effect.except_bind_eq_ok.mpr ⟨m, first, later⟩
    · rw [laterTables, firstTables]
      split
      · rfl
      · rfl

/-- The tickets table with the columns introduced later. -/
def widen (t : Sql.Table SqlValue) : Sql.Table SqlValue :=
  t.ensureAll (idempotentColumnAdditions.map (fun a => (a.column, a.type)))

theorem widen_ok {t : Sql.Table SqlValue} (table : db.tables.get "tickets" = some t) :
    ∃ db', addColumns idempotentColumnAdditions db = .ok db' ∧ db'.indexes = db.indexes ∧
      ∀ n, db'.tables.get n = if n = "tickets" then some (widen t) else db.tables.get n :=
  addColumns_ok (fun a mem => (additions_declared a mem).1) table

theorem mem_widen_names {t : Sql.Table SqlValue} {n : String} :
    n ∈ (widen t).names ↔ n ∈ t.names ∨ ∃ a ∈ idempotentColumnAdditions, a.column = n := by
  rw [widen, Sql.Table.mem_ensureAll_names, List.map_map, List.mem_map]
  rfl

theorem widen_agree (t : Sql.Table SqlValue) : Sql.Agree t.names t.rows (widen t).rows :=
  t.ensureAll_agree _

theorem widen_declared {t : Sql.Table SqlValue} (earlier : EarlierTable tickets t)
    {c : Sql.Column SqlValue} (mem : c ∈ (widen t).columns) : c ∈ tickets.columns := by
  rcases Sql.Table.mem_ensureAll_columns mem with old | ⟨pair, added, rfl⟩
  · exact earlier.declared c old
  · obtain ⟨a, here, rfl⟩ := List.mem_map.mp added
    exact (additions_declared a here).2

theorem widen_complete {t : Sql.Table SqlValue} (earlier : EarlierTable tickets t)
    {c : Sql.Column SqlValue} (mem : c ∈ tickets.columns) : c.name ∈ (widen t).names := by
  rw [mem_widen_names]
  by_cases present : c ∈ t.columns
  · exact .inl (Sql.Table.mem_names present)
  · obtain ⟨a, added, _, column⟩ := earlier.missing c mem present
    exact .inr ⟨a, added, column⟩

theorem lane_widen (t : Sql.Table SqlValue) : "lane" ∈ (widen t).names :=
  mem_widen_names.mpr (.inr ⟨⟨"tickets", "lane", ⟨.text, none⟩⟩, by simp [idempotentColumnAdditions], rfl⟩)

/-- A lane that was missing is NULL once its column is there. -/
theorem lane_added {t : Sql.Table SqlValue} (missing : "lane" ∉ t.names) :
    ∀ r ∈ (widen t).rows, r "lane" = none := by
  refine Sql.Table.ensureAll_added ?_ missing ?_
  · decide
  · decide

theorem columns_perm {d : SqliteTable} {t : Sql.Table SqlValue}
    (declared : ∀ c ∈ t.columns, c ∈ d.columns) (complete : ∀ c ∈ d.columns, c.name ∈ t.names) :
    t.columns.Perm d.columns := by
  rw [List.perm_ext_iff_of_nodup t.constrained.named.of_map d.named.of_map]
  intro c
  refine ⟨declared c, fun mem => ?_⟩
  obtain ⟨c', here, same⟩ := List.mem_map.mp (complete c mem)
  rw [← List.inj_on_of_nodup_map d.named (declared c' here) mem same]
  exact here

theorem widen_perm {t : Sql.Table SqlValue} (earlier : EarlierTable tickets t) :
    (widen t).columns.Perm tickets.columns :=
  columns_perm (fun _ mem => widen_declared earlier mem) (fun _ mem => widen_complete earlier mem)

/-! ### The lane filled in -/

/-- What the backfill makes of one ticket. -/
def laneRow (jsonExtract : JsonExtract) (r : Sql.Row SqlValue) :
    Except Sql.Error (Sql.Row SqlValue) :=
  Sql.Database.updateRow "lane" (fun r => (r "lane").isNone)
    (fun r => jsonExtract (r "payload") "$.lane") r

theorem laneRow_present {r : Sql.Row SqlValue} {v : SqlValue} (lane : r "lane" = some v) :
    laneRow jsonExtract r = .ok r := by
  simp [laneRow, Sql.Database.updateRow, lane]

theorem laneRow_absent {r : Sql.Row SqlValue} {v : Option SqlValue} (lane : r "lane" = none)
    (value : jsonExtract (r "payload") "$.lane" = .ok v) :
    laneRow jsonExtract r = .ok (r.set "lane" v) := by
  simp [laneRow, Sql.Database.updateRow, lane, value, Except.map]

theorem laneRow_keeps {r r' : Sql.Row SqlValue} (done : laneRow jsonExtract r = .ok r')
    (c : String) : r' c = r c ∨ (c = "lane" ∧ r c = none) := by
  rcases Sql.Database.updateRow_ok done with ⟨_, rfl⟩ | ⟨absent, v, _, rfl⟩
  · exact .inl rfl
  · by_cases own : c = "lane"
    · exact .inr ⟨own, by rw [own]; exact Option.isNone_iff_eq_none.mp absent⟩
    · exact .inl (r.set_ne v own)

/-- A second backfill finds the lane, or finds that the payload has none. -/
theorem laneRow_fixed {r r' : Sql.Row SqlValue} (done : laneRow jsonExtract r = .ok r') :
    laneRow jsonExtract r' = .ok r' := by
  rcases Sql.Database.updateRow_ok done with ⟨_, rfl⟩ | ⟨absent, v, value, rfl⟩
  · exact done
  · cases v with
    | some lane => exact laneRow_present (r.set_self "lane" (some lane))
    | none =>
      have null : r "lane" = none := Option.isNone_iff_eq_none.mp absent
      have same : r.set "lane" none = r := by
        rw [← null]
        exact r.set_same "lane"
      rw [same] at done ⊢
      exact done

theorem backfillLane_ok {t : Sql.Table SqlValue} (table : db.tables.get "tickets" = some t)
    (lane : "lane" ∈ t.names) (declared : ∀ c ∈ t.columns, c ∈ tickets.columns)
    (unread : ∀ n i, db.indexes.get n = some i → "lane" ∉ i.mentions)
    (readable : Readable jsonExtract t) :
    ∃ db' u, backfillLane jsonExtract db = .ok db' ∧
      db'.tables = db.tables.set "tickets" u ∧ db'.indexes = db.indexes ∧
      u.columns = t.columns ∧
      List.Forall₂ (fun r r' => laneRow jsonExtract r = .ok r') t.rows u.rows := by
  have total : ∀ r ∈ t.rows, ∃ r', laneRow jsonExtract r = .ok r' := by
    intro r mem
    cases value : r "lane" with
    | some v => exact ⟨r, laneRow_present value⟩
    | none =>
      obtain ⟨v, reads⟩ := readable r mem (fun _ => value)
      exact ⟨r.set "lane" v, laneRow_absent value reads⟩
  obtain ⟨rows, ran⟩ := Effect.except_mapM_total total
  have rowwise := Effect.except_mapM_eq_ok.mp ran
  obtain ⟨db', sound, done, tables, indexes⟩ := Sql.Database.update_free table lane rowwise
    (fun c mem => lane_plain c (declared c mem)) (fun n i found _ => unread n i found)
  exact ⟨db', ⟨t.columns, rows, sound⟩, done, tables, indexes, rfl, rowwise⟩

theorem backfillLane_fixed {t : Sql.Table SqlValue} (table : db.tables.get "tickets" = some t)
    (lane : "lane" ∈ t.names) (fixed : ∀ r ∈ t.rows, laneRow jsonExtract r = .ok r) :
    backfillLane jsonExtract db = .ok db :=
  Sql.Database.update_fixed table lane fixed

/-! ### The migrated database -/

structure Declared (db : Sql.Database SqlValue) : Prop where
  tables : ∀ n d, declaredTables.get n = some d →
    ∃ t, db.tables.get n = some t ∧ t.columns.Perm d.columns
  others : ∀ n, declaredTables.get n = none → db.tables.get n = none
  indexes : ∀ n, db.indexes.get n = declaredIndexes.get n

theorem Declared.sameSchema {db' : Sql.Database SqlValue} (left : Declared db)
    (right : Declared db') : SameSchema db db' := by
  intro n
  refine ⟨?_, (left.indexes n).trans (right.indexes n).symm⟩
  cases declared : declaredTables.get n with
  | none =>
    rw [left.others n declared, right.others n declared]
    exact .none
  | some d =>
    obtain ⟨t, table, columns⟩ := left.tables n d declared
    obtain ⟨u, table', columns'⟩ := right.tables n d declared
    rw [table, table']
    exact .some (columns.trans columns'.symm)

theorem tickets_declared : declaredTables.get "tickets" = some tickets :=
  declaredTables_get.mpr ⟨List.mem_cons_self, rfl⟩

/-- On a migrated database there is nothing left to do. -/
theorem ensure_again (declared : Declared db)
    (fixed : ∀ t, db.tables.get "tickets" = some t → ∀ r ∈ t.rows, laneRow jsonExtract r = .ok r) :
    ensureDurableObjectSchema jsonExtract db = .ok db := by
  obtain ⟨t, table, columns⟩ := declared.tables "tickets" tickets tickets_declared
  have known : ∀ c ∈ tickets.columns, c.name ∈ t.names := fun c mem =>
    List.mem_map_of_mem (columns.mem_iff.mpr mem)
  have defined : Sql.Statement.run durableObjectDDL db = .ok db := by
    refine Sql.Statement.run_established (fun s mem => ?_)
    obtain ⟨d, here, made⟩ := mem_tablesToDDL.mp mem
    obtain ⟨u, found, _⟩ := declared.tables d.name d (declaredTables_get.mpr ⟨here, rfl⟩)
    have present : db.tables.get d.name ≠ none := by
      rw [found]
      exact Option.some_ne_none u
    rcases made with rfl | ⟨idx, own, rfl⟩
    · exact present
    · refine ⟨present, ?_⟩
      rw [declared.indexes,
        declaredIndexes_get.mpr ⟨d, here, idx, own, rfl, rfl⟩]
      exact Option.some_ne_none _
  have widened : addColumns idempotentColumnAdditions db = .ok db :=
    addColumns_present (fun a mem => by
      obtain ⟨own, declared⟩ := additions_declared a mem
      exact ⟨own ▸ table, known _ declared⟩)
  unfold ensureDurableObjectSchema
  rw [defined]
  change addColumns idempotentColumnAdditions db >>= backfillLane jsonExtract = _
  rw [widened]
  exact backfillLane_fixed table (known (text "lane") (by decide)) (fixed t table)

theorem ensure_eq_ok {db' : Sql.Database SqlValue} :
    ensureDurableObjectSchema jsonExtract db = .ok db' ↔
      ∃ m, Sql.Statement.run durableObjectDDL db = .ok m ∧
        ∃ w, addColumns idempotentColumnAdditions m = .ok w ∧
          backfillLane jsonExtract w = .ok db' := by
  simp only [ensureDurableObjectSchema, Effect.except_bind_eq_ok]

theorem goal_declared (earlier : Earlier db) (ok : Migratable jsonExtract db) {n : String}
    {d : SqliteTable} (declared : declaredTables.get n = some d) :
    ∃ t, (goal earlier ok).table n = some t ∧ EarlierTable d t ∧
      (db.tables.get n = some t ∨ t.rows = []) := by
  cases found : db.tables.get n with
  | some t =>
    obtain ⟨e, here, shape⟩ := earlier.tables n t found
    have same : e = d := Option.some.inj (here.symm.trans declared)
    subst same
    exact ⟨t, by rw [goal_table, found, Option.some_or], shape, .inl rfl⟩
  | none =>
    refine ⟨d.fresh, by rw [goal_table, found, declared]; rfl, ⟨fun _ mem => mem, ?_⟩, .inr rfl⟩
    exact fun c mem absent => absurd mem absent

theorem goal_undeclared (earlier : Earlier db) (ok : Migratable jsonExtract db) {n : String}
    (undeclared : declaredTables.get n = none) : (goal earlier ok).table n = none := by
  cases found : db.tables.get n with
  | some t =>
    obtain ⟨d, here, _⟩ := earlier.tables n t found
    rw [undeclared] at here
    cases here
  | none => rw [goal_table, found, undeclared]; rfl

theorem goal_indexes (earlier : Earlier db) (ok : Migratable jsonExtract db) (n : String) :
    (goal earlier ok).index n = declaredIndexes.get n := by
  cases found : db.indexes.get n with
  | none => rw [goal_index, found, Option.none_or]
  | some i =>
    obtain ⟨j, declared⟩ := Option.ne_none_iff_exists'.mp (earlier.indexes n i found)
    rw [goal_index, found, Option.some_or, declared, ok.current n i j found declared]

theorem payload_kept {t : Sql.Table SqlValue} (shape : EarlierTable tickets t) :
    "payload" ∈ t.names := by
  by_contra absent
  obtain ⟨a, added, _, column⟩ := shape.missing { text "payload" with notNull := true }
    (by decide) (fun here => absent (Sql.Table.mem_names here))
  have never : ∀ a ∈ idempotentColumnAdditions, a.column ≠ "payload" := by decide
  exact never a added column

theorem readable_widen {t : Sql.Table SqlValue} (shape : EarlierTable tickets t)
    (readable : Readable jsonExtract t) : Readable jsonExtract (widen t) := by
  intro r mem null
  have lane : r "lane" = none := null (lane_widen t)
  obtain ⟨q, old, same⟩ := Sql.exists_of_forall₂_left (widen_agree t) mem
  rw [same "payload" (payload_kept shape)]
  exact readable q old (fun here => (same "lane" here).symm.trans lane)

/-- What the three phases leave: the tickets table `t` of the definitions became `u`. -/
structure Migrated (jsonExtract : JsonExtract) (goal : Sql.Target SqlValue)
    (db : Sql.Database SqlValue) (t u : Sql.Table SqlValue) : Prop where
  aim : goal.table "tickets" = some t
  shape : EarlierTable tickets t
  table : db.tables.get "tickets" = some u
  columns : u.columns = (widen t).columns
  rows : List.Forall₂ (fun r r' => laneRow jsonExtract r = .ok r') (widen t).rows u.rows
  others : ∀ n, n ≠ "tickets" → db.tables.get n = goal.table n
  indexes : ∀ n, db.indexes.get n = declaredIndexes.get n

theorem ensure_migrates (earlier : Earlier db) (ok : Migratable jsonExtract db) :
    ∃ db' t u, ensureDurableObjectSchema jsonExtract db = .ok db' ∧
      Migrated jsonExtract (goal earlier ok) db' t u := by
  obtain ⟨m, defined, mTables, mIndexes⟩ := definitions_ok earlier ok
  obtain ⟨t, aim, shape, origin⟩ := goal_declared earlier ok tickets_declared
  obtain ⟨w, widened, wIndexes, wTables⟩ := widen_ok ((mTables "tickets").trans aim)
  have readable : Readable jsonExtract t := by
    rcases origin with old | new
    · exact ok.readable t old
    · intro r mem
      rw [new] at mem
      cases mem
  have indexed : ∀ n, w.indexes.get n = declaredIndexes.get n := by
    intro n
    rw [wIndexes, mIndexes, goal_indexes]
  have unread : ∀ n i, w.indexes.get n = some i → "lane" ∉ i.mentions := by
    intro n i found
    obtain ⟨d, mem, idx, own, _, rfl⟩ := declaredIndexes_get.mp ((indexed n).symm.trans found)
    exact lane_unread d mem idx own
  obtain ⟨db', u, filled, tables, indexes, columns, rowwise⟩ :=
    backfillLane_ok ((wTables "tickets").trans (if_pos rfl)) (lane_widen t)
      (fun c => widen_declared shape) unread (readable_widen shape readable)
  refine ⟨db', t, u, ensure_eq_ok.mpr ⟨m, defined, w, widened, filled⟩,
    aim, shape, ?_, columns, rowwise, ?_, ?_⟩
  · rw [tables, InsertionMap.get_set_self]
  · intro n other
    rw [tables, InsertionMap.get_set_ne _ _ other, wTables, if_neg other, mTables]
  · intro n
    rw [indexes, indexed]

section
variable {db' : Sql.Database SqlValue} {t u : Sql.Table SqlValue} {earlier : Earlier db}
  {ok : Migratable jsonExtract db}

theorem Migrated.declared (done : Migrated jsonExtract (goal earlier ok) db' t u) :
    Declared db' := by
  refine ⟨?_, ?_, done.indexes⟩
  · intro n d declared
    by_cases own : n = "tickets"
    · subst own
      have same : d = tickets := Option.some.inj (declared.symm.trans tickets_declared)
      subst same
      exact ⟨u, done.table, by rw [done.columns]; exact widen_perm done.shape⟩
    · obtain ⟨v, found, shape, _⟩ := goal_declared earlier ok declared
      refine ⟨v, (done.others n own).trans found, columns_perm shape.declared ?_⟩
      intro c mem
      by_contra absent
      obtain ⟨a, added, table, _⟩ :=
        shape.missing c mem (fun old => absent (Sql.Table.mem_names old))
      rw [(additions_declared a added).1, (declaredTables_get.mp declared).2] at table
      exact own table.symm
  · intro n undeclared
    have other : n ≠ "tickets" := by
      rintro rfl
      rw [tickets_declared] at undeclared
      cases undeclared
    rw [done.others n other, goal_undeclared earlier ok undeclared]

theorem Migrated.keeps (done : Migrated jsonExtract (goal earlier ok) db' t u) : Keeps db db' := by
  intro n v found
  have kept : (goal earlier ok).table n = some v := by
    rw [goal_table, found, Option.some_or]
  by_cases own : n = "tickets"
  · subst own
    have same : t = v := Option.some.inj (done.aim.symm.trans kept)
    subst same
    refine ⟨u, done.table, List.Forall₂.imp ?_ ((widen_agree t).forall₂ done.rows)⟩
    rintro r r' ⟨q, agree, ran⟩ c mem
    rcases laneRow_keeps ran c with keep | ⟨lane, null⟩
    · exact .inl (keep.trans (agree c mem))
    · exact .inr ⟨rfl, lane, (agree c mem).symm.trans null⟩
  · exact ⟨v, (done.others n own).trans kept, List.forall₂_same.mpr (fun _ _ _ _ => .inl rfl)⟩

theorem Migrated.again (done : Migrated jsonExtract (goal earlier ok) db' t u) :
    ensureDurableObjectSchema jsonExtract db' = .ok db' := by
  refine ensure_again done.declared (fun v found r mem => ?_)
  have same : u = v := Option.some.inj (done.table.symm.trans found)
  subst same
  obtain ⟨_, _, ran⟩ := Sql.exists_of_forall₂_left done.rows mem
  exact laneRow_fixed ran

end

theorem earlier_empty : Earlier .empty := ⟨nofun, nofun⟩

theorem migratable_empty : Migratable jsonExtract .empty := ⟨nofun, nofun, nofun, nofun⟩

theorem fresh_declared (jsonExtract : JsonExtract) :
    ∃ fresh, ensureDurableObjectSchema jsonExtract .empty = .ok fresh ∧ Declared fresh := by
  obtain ⟨fresh, t, u, done, migrated⟩ :=
    ensure_migrates earlier_empty (migratable_empty : Migratable jsonExtract .empty)
  exact ⟨fresh, done, migrated.declared⟩

/-! ### From which databases the migration arrives -/

theorem converges_of_migratable (earlier : Earlier db) (ok : Migratable jsonExtract db) :
    Converges jsonExtract db := by
  obtain ⟨db', t, u, done, migrated⟩ := ensure_migrates earlier ok
  obtain ⟨fresh, freshDone, declared⟩ := fresh_declared jsonExtract
  exact ⟨db', done, migrated.again, migrated.keeps, fresh, freshDone,
    migrated.declared.sameSchema declared⟩

/-- A run that ends in the declared indexes had them right at every table it found. -/
theorem migratable_of_converges (earlier : Earlier db) (converges : Converges jsonExtract db) :
    Migratable jsonExtract db := by
  obtain ⟨db', done, _, _, fresh, freshDone, same⟩ := converges
  obtain ⟨fresh', freshDone', freshDeclared⟩ := fresh_declared jsonExtract
  cases freshDone.symm.trans freshDone'
  obtain ⟨m, defined, w, widened, filled⟩ := ensure_eq_ok.mp done
  obtain ⟨more, established⟩ := Sql.Statement.run_extends defined
  obtain ⟨t, table⟩ := Option.ne_none_iff_exists'.mp (established _ (mem_tablesToDDL.mpr
    ⟨tickets, List.mem_cons_self, .inl rfl⟩))
  obtain ⟨w', widened', wIndexes, wTables⟩ := widen_ok table
  cases widened.symm.trans widened'
  obtain ⟨u, rows, _, wTable, rowwise, _, indexes⟩ := Sql.Database.update_eq_ok filled
  have declared : ∀ n, m.indexes.get n = declaredIndexes.get n := by
    intro n
    rw [← wIndexes, ← indexes, (same n).2, freshDeclared.indexes]
  have fits : ∀ n i t, declaredIndexes.get n = some i → db.tables.get i.table = some t →
      i.Fits t := fun n i t here found =>
    Sql.Database.fits_of_get ((declared n).trans here) rfl (more.tables _ t found)
  refine ⟨?_, ?_, ?_, ?_⟩
  · intro t found
    have here : declaredIndexes.get "ix_tickets_appointment_at" =
        some ⟨"tickets", ["appointment_at"], false, none⟩ :=
      declaredIndexes_get.mpr ⟨tickets, List.mem_cons_self, index _ _, List.mem_cons_self, rfl, rfl⟩
    exact (fits _ _ t here found).columns _ (List.mem_singleton_self _)
  · intro n i j found here
    exact Option.some.inj ((more.indexes n i found).symm.trans ((declared n).trans here))
  · exact fun n i t here _ found => (fits n i t here found).separates
  · intro v found r mem missing
    have same : v = t := Option.some.inj ((more.tables _ v found).symm.trans table)
    subst same
    have wide : u = widen v := Option.some.inj (wTable.symm.trans ((wTables _).trans (if_pos rfl)))
    rw [wide] at rowwise
    obtain ⟨q, wider, agree⟩ := Sql.exists_of_forall₂_right (widen_agree v) mem
    have null : q "lane" = none := by
      by_cases here : "lane" ∈ v.names
      · rw [agree "lane" here, missing here]
      · exact lane_added here q wider
    obtain ⟨_, _, ran⟩ := Sql.exists_of_forall₂_right rowwise wider
    rcases Sql.Database.updateRow_ok ran with ⟨lane, _⟩ | ⟨_, value, reads, _⟩
    · rw [null] at lane
      cases lane
    · obtain ⟨d, known, shape⟩ := earlier.tables "tickets" v found
      have own : d = tickets := Option.some.inj (known.symm.trans tickets_declared)
      subst own
      rw [← agree "payload" (payload_kept shape)]
      exact ⟨value, reads⟩

theorem migration_converges_iff (earlier : Earlier db) :
    Converges jsonExtract db ↔ Migratable jsonExtract db :=
  ⟨migratable_of_converges earlier, converges_of_migratable earlier⟩

end Schema

namespace Sample

open Schema

def ticketCells : Sql.Row SqlValue := fun c => [
  ("id", SqlValue.text "ticket"), ("seq", .integer 1), ("state", .text "Waiting"),
  ("name_kana", .text "ヤマダ タロウ"), ("phone_last4", .text "1234"),
  ("issued_at", .text "2026-05-11T00:00:00Z"), ("payload", .text "\x7b\x7d"),
  ("revision", .integer 1), ("updated_at", .text "2026-05-11T00:00:00.000Z")].lookup c

def ticketsWithout (missing : List String) : List (Sql.Column SqlValue) :=
  tickets.columns.filter (fun c => c.name ∉ missing)

def storing (t : Sql.Table SqlValue) : Sql.Database SqlValue where
  tables := .ofList [("tickets", t)]
  indexes := .empty
  apart := fun _ _ => rfl
  indexed := nofun

/-- One ticket, from before reservations had appointments. -/
def beforeAppointments : Sql.Table SqlValue :=
  ⟨ticketsWithout (idempotentColumnAdditions.map ColumnAddition.column), [ticketCells],
    by decide⟩

/-- One ticket, from before the sweep of lapsed appointments read the lane. -/
def beforeSweep : Sql.Table SqlValue :=
  ⟨ticketsWithout ["lane", "overdue_at", "last_nudged_at", "nudge_count"], [ticketCells],
    by decide⟩

def emptyObject : JsonExtract := fun payload _ =>
  if payload = some (.text "\x7b\x7d") then .ok none else .error .malformedJson

end Sample

namespace Schema

theorem storing_get {t u : Sql.Table SqlValue} {n : String}
    (found : (Sample.storing t).tables.get n = some u) : n = "tickets" ∧ u = t := by
  rw [Sample.storing, InsertionMap.get_ofList (by simp)] at found
  cases List.mem_singleton.mp found
  exact ⟨rfl, rfl⟩

theorem earlier_storing {t : Sql.Table SqlValue} (shape : EarlierTable tickets t) :
    Earlier (Sample.storing t) := by
  refine ⟨?_, nofun⟩
  intro n u found
  obtain ⟨rfl, rfl⟩ := storing_get found
  exact ⟨tickets, tickets_declared, shape⟩

theorem migration_converges_iff_before_sweep :
    Converges Sample.emptyObject (Sample.storing Sample.beforeSweep) := by
  refine (migration_converges_iff (earlier_storing ⟨by decide, by decide⟩)).mpr
    ⟨?_, nofun, ?_, ?_⟩
  · intro t found
    rw [(storing_get found).2]
    decide
  · intro n i t declared _ found
    have alone : ∀ d ∈ durableObjectTables, ∀ idx ∈ d.indexes,
        (idx.on d.name).Separates [Sample.ticketCells] := by decide
    obtain ⟨d, mem, idx, own, _, rfl⟩ := declaredIndexes_get.mp declared
    rw [(storing_get found).2]
    exact alone d mem idx own
  · intro t found r mem _
    rw [(storing_get found).2] at mem
    cases List.mem_singleton.mp mem
    exact ⟨none, rfl⟩

/-- A table without appointments: its index is created before the column is. -/
theorem appointments_missing : Earlier (Sample.storing Sample.beforeAppointments) ∧
    ensureDurableObjectSchema Sample.emptyObject (Sample.storing Sample.beforeAppointments) =
      .error .noSuchColumn ∧
    ¬ Converges Sample.emptyObject (Sample.storing Sample.beforeAppointments) := by
  have stops : ensureDurableObjectSchema Sample.emptyObject
      (Sample.storing Sample.beforeAppointments) = .error .noSuchColumn := by
    rfl
  refine ⟨earlier_storing ⟨by decide, by decide⟩, stops, ?_⟩
  rintro ⟨db', done, _⟩
  rw [stops] at done
  cases done

end Schema
end SlotBooking
