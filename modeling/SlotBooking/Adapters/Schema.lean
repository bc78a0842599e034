import SlotBooking.Library.SqlMigration

/-! The schema of the Durable Object database and its idempotent migration. The statements
are kept as data: what SQLite reads in them, without the text they are written in. -/
namespace SlotBooking

/-- What a cell other than NULL can hold. -/
inductive SqlValue where
  | integer (n : Int)
  | real (bits : UInt64)
  | text (s : String)
  | blob (bytes : List UInt8)
deriving DecidableEq

namespace Schema

/-! ### Declared tables -/

def text (name : String) : Sql.Column SqlValue := ⟨name, .text, false, false, none⟩

def integer (name : String) : Sql.Column SqlValue := ⟨name, .integer, false, false, none⟩

/-- `index(name).on(columns)`, or `uniqueIndex`; a filter makes it partial. -/
structure IndexBuilder where
  name : String
  columns : List String
  unique : Bool
  filter : Option (Sql.Filter SqlValue)

def index (name : String) (columns : List String) : IndexBuilder := ⟨name, columns, false, none⟩

def uniqueIndex (name : String) (columns : List String) : IndexBuilder :=
  ⟨name, columns, true, none⟩

def IndexBuilder.on (i : IndexBuilder) (table : String) : Sql.Index SqlValue :=
  ⟨table, i.columns, i.unique, i.filter⟩

/-- Column names are different, and indexes are over the table's own columns. -/
structure SqliteTable where
  name : String
  columns : List (Sql.Column SqlValue)
  indexes : List IndexBuilder
  named : (columns.map Sql.Column.name).Nodup
  covered : ∀ i ∈ indexes, ∀ c ∈ (i.on name).mentions, c ∈ columns.map Sql.Column.name

def currentTimestamp : Sql.Default SqlValue :=
  .expression "(strftime('%Y-%m-%dT%H:%M:%fZ', 'now'))"

def tickets : SqliteTable where
  name := "tickets"
  columns := [
    { text "id" with primary := true, notNull := true },
    { integer "seq" with notNull := true },
    { text "state" with notNull := true },
    text "lane",
    text "name_kana",
    text "phone_last4",
    text "free_text",
    { text "issued_at" with notNull := true },
    text "called_at",
    text "served_at",
    text "cancelled_at",
    text "marked_at",
    text "appointment_at",
    text "checked_in_at",
    text "overdue_at",
    text "last_nudged_at",
    { integer "nudge_count" with default := some (.literal (.integer 0)) },
    text "reason",
    text "cancelled_by",
    text "called_by",
    text "served_by",
    text "marked_by",
    { text "payload" with notNull := true },
    { integer "revision" with notNull := true, default := some (.literal (.integer 0)) },
    { text "updated_at" with notNull := true, default := some currentTimestamp }]
  indexes := [
    index "ix_tickets_appointment_at" ["appointment_at"],
    index "ix_tickets_state_appointment_seq" ["state", "appointment_at", "seq"],
    { uniqueIndex "uq_tickets_handle_active" ["name_kana", "phone_last4"] with
      filter := some ⟨"state", [.text "Waiting", .text "Called", .text "Overdue"]⟩ }]
  named := by decide
  covered := by decide

def ticketEvents : SqliteTable where
  name := "ticket_events"
  columns := [
    { text "id" with primary := true, notNull := true },
    { text "ticket_id" with notNull := true },
    { integer "seq" with notNull := true },
    { text "type" with notNull := true },
    { text "occurred_at" with notNull := true },
    { text "recorded_at" with notNull := true },
    { text "payload" with notNull := true }]
  indexes := [uniqueIndex "ux_ticket_events_ticket_seq" ["ticket_id", "seq"]]
  named := by decide
  covered := by decide

def outbox : SqliteTable where
  name := "outbox"
  columns := [
    { text "id" with primary := true, notNull := true },
    { text "ticket_id" with notNull := true },
    { text "payload" with notNull := true },
    { integer "attempts" with notNull := true, default := some (.literal (.integer 0)) },
    { text "next_attempt_at" with notNull := true, default := some currentTimestamp },
    text "last_error"]
  indexes := []
  named := by decide
  covered := by decide

def outboxDead : SqliteTable where
  name := "outbox_dead"
  columns := [
    { text "id" with primary := true, notNull := true },
    { text "ticket_id" with notNull := true },
    { text "payload" with notNull := true },
    { integer "attempts" with notNull := true },
    { text "last_error" with notNull := true },
    { text "recorded_at" with notNull := true, default := some currentTimestamp }]
  indexes := []
  named := by decide
  covered := by decide

def aggregateSnapshots : SqliteTable where
  name := "aggregate_snapshots"
  columns := [
    { text "ticket_id" with primary := true, notNull := true },
    { integer "revision" with notNull := true },
    { text "payload" with notNull := true },
    { text "created_at" with notNull := true, default := some currentTimestamp }]
  indexes := []
  named := by decide
  covered := by decide

def pushSubscriptions : SqliteTable where
  name := "push_subscriptions"
  columns := [
    { text "ticket_id" with notNull := true },
    { text "endpoint" with notNull := true },
    { text "p256dh" with notNull := true },
    { text "auth" with notNull := true },
    { text "created_at" with notNull := true, default := some currentTimestamp }]
  indexes := [
    uniqueIndex "uq_push_subscriptions_pk" ["ticket_id", "endpoint"],
    index "ix_push_subscriptions_endpoint" ["endpoint"]]
  named := by decide
  covered := by decide

/-! ### Rendering -/

/-- The table first, then its indexes. -/
def tableToDDL (table : SqliteTable) : List (Sql.Statement SqlValue) :=
  .createTable table.name table.columns ::
    table.indexes.map (fun idx => .createIndex idx.name (idx.on table.name))

def tablesToDDL (tables : List SqliteTable) : List (Sql.Statement SqlValue) :=
  tables.flatMap tableToDDL

def durableObjectTables : List SqliteTable :=
  [tickets, ticketEvents, outbox, outboxDead, aggregateSnapshots, pushSubscriptions]

def durableObjectDDL : List (Sql.Statement SqlValue) := tablesToDDL durableObjectTables

/-! ### Migration -/

structure ColumnAddition where
  table : String
  column : String
  type : Sql.TypeClause SqlValue

def idempotentColumnAdditions : List ColumnAddition := [
  ⟨"tickets", "appointment_at", ⟨.text, none⟩⟩,
  ⟨"tickets", "checked_in_at", ⟨.text, none⟩⟩,
  ⟨"tickets", "lane", ⟨.text, none⟩⟩,
  ⟨"tickets", "overdue_at", ⟨.text, none⟩⟩,
  ⟨"tickets", "last_nudged_at", ⟨.text, none⟩⟩,
  ⟨"tickets", "nudge_count", ⟨.integer, some (.integer 0)⟩⟩]

def ensureColumn (addition : ColumnAddition) (db : Sql.Database SqlValue) :
    Except Sql.Error (Sql.Database SqlValue) :=
  let rows := db.tableInfo addition.table
  let present := rows.any (fun r => r.name = addition.column)
  if present then .ok db else db.addColumn addition.table addition.column addition.type

/-- `json_extract` as SQLite stores its result in a TEXT column: an error where the first
argument is not JSON, and NULL where there is nothing at the path. -/
abbrev JsonExtract : Type := Option SqlValue → String → Except Sql.Error (Option SqlValue)

/-- `UPDATE tickets SET lane = json_extract(payload, '$.lane') WHERE lane IS NULL`. -/
def backfillLane (jsonExtract : JsonExtract) (db : Sql.Database SqlValue) :
    Except Sql.Error (Sql.Database SqlValue) :=
  db.update "tickets" "lane" (fun r => (r "lane").isNone)
    (fun r => jsonExtract (r "payload") "$.lane")

def addColumns (additions : List ColumnAddition) (db : Sql.Database SqlValue) :
    Except Sql.Error (Sql.Database SqlValue) :=
  additions.foldlM (fun db addition => ensureColumn addition db) db

end Schema

open Schema in
def ensureDurableObjectSchema (jsonExtract : JsonExtract) (db : Sql.Database SqlValue) :
    Except Sql.Error (Sql.Database SqlValue) := do
  let defined ← Sql.Statement.run durableObjectDDL db
  let widened ← addColumns idempotentColumnAdditions defined
  backfillLane jsonExtract widened

namespace Schema

/-! ### The declared schema -/

theorem ordered_indexes {known : List String} {table : String} (mem : table ∈ known)
    (indexes : List IndexBuilder) (rest : List (Sql.Statement SqlValue))
    (later : Sql.Statement.Ordered known rest) :
    Sql.Statement.Ordered known
      (indexes.map (fun idx => .createIndex idx.name (idx.on table)) ++ rest) := by
  induction indexes with
  | nil => exact later
  | cons idx indexes ih => exact ⟨mem, ih⟩

/-- Whatever tables are declared, no index statement comes before its table. -/
theorem ordered_tablesToDDL (tables : List SqliteTable) (known : List String) :
    Sql.Statement.Ordered known (tablesToDDL tables) := by
  induction tables generalizing known with
  | nil => trivial
  | cons d tables ih =>
    exact ordered_indexes List.mem_cons_self d.indexes _ (ih (d.name :: known))

theorem mem_tablesToDDL {tables : List SqliteTable} {s : Sql.Statement SqlValue} :
    s ∈ tablesToDDL tables ↔ ∃ d ∈ tables, s = .createTable d.name d.columns ∨
      ∃ idx ∈ d.indexes, s = .createIndex idx.name (idx.on d.name) := by
  simp only [tablesToDDL, tableToDDL, List.mem_flatMap, List.mem_cons, List.mem_map]
  constructor
  · rintro ⟨d, mem, rfl | ⟨idx, here, rfl⟩⟩
    · exact ⟨d, mem, .inl rfl⟩
    · exact ⟨d, mem, .inr ⟨idx, here, rfl⟩⟩
  · rintro ⟨d, mem, rfl | ⟨idx, here, rfl⟩⟩
    · exact ⟨d, mem, .inl rfl⟩
    · exact ⟨d, mem, .inr ⟨idx, here, rfl⟩⟩

def declaredTables : InsertionMap String SqliteTable :=
  .ofList (durableObjectTables.map (fun d => (d.name, d)))

def declaredIndexes : InsertionMap String (Sql.Index SqlValue) :=
  .ofList (durableObjectTables.flatMap (fun d => d.indexes.map (fun idx => (idx.name, idx.on d.name))))

theorem declaredTables_get {n : String} {d : SqliteTable} :
    declaredTables.get n = some d ↔ d ∈ durableObjectTables ∧ d.name = n := by
  rw [declaredTables, InsertionMap.get_ofList (by decide), List.mem_map]
  constructor
  · rintro ⟨e, here, same⟩
    cases same
    exact ⟨here, rfl⟩
  · rintro ⟨mem, rfl⟩
    exact ⟨d, mem, rfl⟩

theorem declaredIndexes_get {n : String} {i : Sql.Index SqlValue} :
    declaredIndexes.get n = some i ↔
      ∃ d ∈ durableObjectTables, ∃ idx ∈ d.indexes, idx.name = n ∧ idx.on d.name = i := by
  rw [declaredIndexes, InsertionMap.get_ofList (by decide), List.mem_flatMap]
  constructor
  · rintro ⟨d, here, inner⟩
    obtain ⟨idx, own, same⟩ := List.mem_map.mp inner
    cases same
    exact ⟨d, here, idx, own, rfl, rfl⟩
  · rintro ⟨d, mem, idx, own, rfl, rfl⟩
    exact ⟨d, mem, List.mem_map.mpr ⟨idx, own, rfl⟩⟩

theorem declared_apart : ∀ d ∈ durableObjectTables, declaredIndexes.get d.name = none := by
  decide

/-- The only added column an index reads is the appointment. -/
theorem additions_indexed : ∀ d ∈ durableObjectTables, ∀ idx ∈ d.indexes,
    ∀ c ∈ (idx.on d.name).mentions, ∀ a ∈ idempotentColumnAdditions,
      a.table = d.name → a.column = c → d.name = "tickets" ∧ c = "appointment_at" := by
  decide

theorem additions_declared : ∀ a ∈ idempotentColumnAdditions,
    a.table = "tickets" ∧ a.type.column a.column ∈ tickets.columns := by
  decide

theorem lane_plain : ∀ c ∈ tickets.columns, c.notNull = true ∨ c.primary = true → c.name ≠ "lane" := by
  decide

theorem lane_unread : ∀ d ∈ durableObjectTables, ∀ idx ∈ d.indexes,
    "lane" ∉ (idx.on d.name).mentions := by
  decide

end Schema
end SlotBooking
