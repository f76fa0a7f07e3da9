import AegisFortress.Python.Json
import Mathlib.Data.List.Forall2
import Mathlib.Data.List.Induction
import Mathlib.Logic.Function.Basic

/-!
# The database

`core/database_manager.py`: four tables to which rows are added, three of which can be asked for their last
rows.  A row goes in with a transaction of its own, so a call that raises leaves nothing behind.

`fetchRecent_afterCalls` says what is read back after any calls: of the payloads of that table that were let in,
the last ones, the last first.  What lets a payload in is `Table.Takes`.
-/

namespace Aegis

variable {α : Type}

/-- The tables of the schema. -/
inductive Table
  | trades
  | executionReports
  | riskEvents
  | healthSnapshots
  deriving DecidableEq

/-- The name in the schema. -/
def Table.name : Table → String
  | .trades => "trades"
  | .executionReports => "execution_reports"
  | .riskEvents => "risk_events"
  | .healthSnapshots => "health_snapshots"

/-- A column of the schema, and how the row's value is read off the payload. -/
structure SchemaColumn (α : Type) where
  name : String
  notNull : Bool
  read : List (String × PyVal α) → PyVal α

/-- `payload.get(name)`. -/
def SchemaColumn.get (name : String) (notNull : Bool) : SchemaColumn α :=
  ⟨name, notNull, fun payload => .get payload name⟩

/-- `payload.get(name, default)`, in a column `NOT NULL`. -/
def SchemaColumn.getOr (name : String) (default : PyVal α) : SchemaColumn α :=
  ⟨name, true, fun payload => (payload.lookup name).getD default⟩

section Schema

variable [Zero α] [DecidableEq α]

/-- `int(bool(payload.get("healthy", False)))`. -/
def healthyOf (payload : List (String × PyVal α)) : PyVal α :=
  .int (if ((payload.lookup "healthy").getD (.bool false)).truthy then 1 else 0)

/-- The columns of a table between `id` and `payload_json`. -/
def Table.columns : Table → List (SchemaColumn α)
  | .trades => [.get "trade_id" false, .get "order_id" false, .get "symbol" true, .get "side" true,
      .getOr "quantity" (.float 0), .getOr "price" (.float 0), .get "exchange" true, .getOr "pnl" (.float 0),
      .getOr "fee" (.float 0), .get "strategy_id" false, .get "timestamp" true]
  | .executionReports => [.get "correlation_id" false, .get "exchange_order_id" false, .get "symbol" true,
      .get "side" true, .getOr "requested_quantity" (.float 0), .getOr "filled_quantity" (.float 0),
      .getOr "average_fill_price" (.float 0), .get "status" true, .get "exchange" true,
      .getOr "fee" (.float 0), .get "timestamp" true]
  | .riskEvents => [.get "correlation_id" false, .getOr "severity" (.str "UNKNOWN"),
      .getOr "code" (.str "UNKNOWN"), .getOr "message" (.str ""), .get "timestamp" true]
  | .healthSnapshots => [.get "captured_at" true, ⟨"healthy", true, healthyOf⟩]

end Schema

/-- SQLite has a type for the value. -/
def bindable : PyVal α → Bool
  | .list _ => false
  | .tuple _ => false
  | .dict _ => false
  | .int n => -2 ^ 63 ≤ n ∧ n < 2 ^ 63
  | _ => true

/-- What binding a value raises. -/
def bindError (index : ℕ) : PyVal α → PyError
  | .int _ => ⟨.other, "Python int too large to convert to SQLite INTEGER"⟩
  | v => ⟨.other, s!"Error binding parameter {index + 1}: type '{v.typeName}' is not supported"⟩

/-- `value IS NULL`. -/
def isNull : PyVal α → Bool
  | .none => true
  | _ => false

structure Row (α : Type) where
  values : List (PyVal α)
  payloadJson : String

/-- The rows of every table, by `id`. -/
structure DatabaseManager (α : Type) where
  rows : Table → List (Row α)

namespace DatabaseManager

/-- `_to_dict(value)`; an object that has `to_dict` stands for what that returns. -/
def toDict : PyVal α → Except PyError (List (String × PyVal α))
  | .dict items => .ok items
  | _ => .error ⟨.typeError, "Object must be a dictionary or expose to_dict()"⟩

/-- The schema has been set up. -/
def new : DatabaseManager α := ⟨fun _ => []⟩

variable [Zero α] [DecidableEq α] (dumps : PyVal α → String)

/-- `INSERT INTO table`: first every value is bound, then the constraints are checked. -/
def insert (db : DatabaseManager α) (table : Table) (payload : List (String × PyVal α)) :
    Except PyError (DatabaseManager α) :=
  let values := table.columns.map fun column => column.read payload
  match values.findIdx? fun v => !bindable v with
  | some i => .error (bindError i (values.getD i .none))
  | none =>
      match table.columns.find? fun (column : SchemaColumn α) => column.notNull && isNull (column.read payload) with
      | some column => .error ⟨.other, s!"NOT NULL constraint failed: {table.name}.{column.name}"⟩
      | none => .ok ⟨Function.update db.rows table (db.rows table ++ [⟨values, dumps (.dict payload)⟩])⟩

/-- `record_trade`, `record_execution_report`, `record_risk_event` and `record_health_snapshot`; `fault` is
what the connection raises. -/
def record (db : DatabaseManager α) (table : Table) (value : PyVal α) (fault : Option PyError) :
    Except PyError (DatabaseManager α) := do
  let payload ← toDict value
  match fault with
  | some e => .error e
  | none => db.insert dumps table payload

omit [Zero α] [DecidableEq α] in
/-- `_fetch_recent(table, limit)`. -/
def fetchRecent (loads : String → Except PyError (PyVal α)) (db : DatabaseManager α) (table : Table)
    (limit : ℤ) : Except PyError (List (PyVal α)) :=
  if table ∉ [Table.trades, .executionReports, .riskEvents] then
    .error ⟨.valueError, "Unsupported table requested"⟩
  else if limit ≤ 0 then .error ⟨.valueError, "limit must be positive"⟩
  else ((db.rows table).reverse.take limit.toNat).mapM fun row => loads row.payloadJson

end DatabaseManager

/-! ## What is let in -/

section Takes

variable [Zero α] [DecidableEq α]

/-- A payload without a value that SQLite has no type for, and with one in every column that needs it. -/
def Table.Takes (table : Table) (payload : List (String × PyVal α)) : Prop :=
  ∀ column ∈ (table.columns : List (SchemaColumn α)), bindable (column.read payload) = true
    ∧ (column.notNull = true → isNull (column.read payload) = false)

instance (table : Table) (payload : List (String × PyVal α)) : Decidable (table.Takes payload) :=
  inferInstanceAs (Decidable (∀ column ∈ (table.columns : List (SchemaColumn α)), _))

/-- The row of a payload. -/
def Table.row (dumps : PyVal α → String) (table : Table) (payload : List (String × PyVal α)) : Row α :=
  ⟨table.columns.map fun column => column.read payload, dumps (.dict payload)⟩

end Takes

namespace DatabaseManager

variable [Zero α] [DecidableEq α] {dumps : PyVal α → String} {db : DatabaseManager α} {table : Table}
  {payload : List (String × PyVal α)}

/-- No value is refused when all of them can be bound and none is missing. -/
lemma takes_iff : table.Takes payload
    ↔ (table.columns.map fun column => column.read payload).findIdx? (fun v => !bindable v) = none
      ∧ table.columns.find? (fun (column : SchemaColumn α) =>
          column.notNull && isNull (column.read payload)) = none := by
  simp only [List.findIdx?_eq_none_iff, List.find?_eq_none, List.forall_mem_map, Bool.not_eq_eq_eq_not,
    Bool.not_false, Bool.and_eq_true, not_and, Bool.not_eq_true, Table.Takes]
  constructor
  · intro h
    exact ⟨fun column hcolumn => (h column hcolumn).1, fun column hcolumn => (h column hcolumn).2⟩
  · rintro ⟨hbind, hnull⟩ column hcolumn
    exact ⟨hbind column hcolumn, hnull column hcolumn⟩

/-- **A row goes in exactly when the payload is one the table takes.** -/
theorem insert_ok_iff {db' : DatabaseManager α} : db.insert dumps table payload = .ok db'
    ↔ table.Takes payload
      ∧ db' = ⟨Function.update db.rows table (db.rows table ++ [table.row dumps payload])⟩ := by
  rw [takes_iff, insert]
  cases hbind : (table.columns.map fun column => column.read payload).findIdx? fun v => !bindable v with
  | some index => simp
  | none =>
      cases hnull : table.columns.find? fun (column : SchemaColumn α) =>
          column.notNull && isNull (column.read payload) with
      | some column => simp
      | none =>
          simp only [Except.ok.injEq, true_and, and_true]
          exact eq_comm

/-! ## Any calls -/

/-- A call of one of the methods that record something. -/
structure Call (α : Type) where
  table : Table
  value : PyVal α
  fault : Option PyError

/-- After a call; when it raises nothing has been committed. -/
def called (dumps : PyVal α → String) (db : DatabaseManager α) (call : Call α) : DatabaseManager α :=
  match db.record dumps call.table call.value call.fault with
  | .ok db' => db'
  | .error _ => db

/-- What a call gets into the table, if anything. -/
def Call.letIn (table : Table) (call : Call α) : Option (List (String × PyVal α)) :=
  match call.value, call.fault with
  | .dict payload, none => if call.table = table ∧ table.Takes payload then some payload else none
  | _, _ => none

/-- A call adds what it gets into the table, and to no other. -/
lemma rows_called (call : Call α) : (db.called dumps call).rows table
    = db.rows table ++ (call.letIn table).toList.map (table.row dumps) := by
  rcases call with ⟨target, value, fault⟩
  have hraised : ∀ e : PyError, db.record dumps target value fault = .error e →
      (db.called dumps ⟨target, value, fault⟩).rows table = db.rows table := by
    intro e he
    simp only [called, he]
  cases value with
  | dict payload =>
      cases fault with
      | some e =>
          rw [hraised e rfl]
          simp [Call.letIn]
      | none =>
          have hrecord : db.record dumps target (.dict payload) none = db.insert dumps target payload := rfl
          cases hinsert : db.insert dumps target payload with
          | ok db' =>
              obtain ⟨htakes, rfl⟩ := insert_ok_iff.mp hinsert
              simp only [called, hrecord, hinsert, Call.letIn]
              by_cases htable : target = table
              · subst htable
                simp [htakes]
              · simp [htable, Function.update_of_ne (Ne.symm htable)]
          | error e =>
              have hnot : ¬ target.Takes payload := by
                intro htakes
                rw [insert_ok_iff.mpr ⟨htakes, rfl⟩] at hinsert
                cases hinsert
              rw [hraised e (hrecord.trans hinsert)]
              simp only [Call.letIn]
              split_ifs with h
              · exact absurd (h.1 ▸ h.2) hnot
              · simp
  | _ =>
      rw [hraised _ rfl]
      simp [Call.letIn]

/-- The database after any calls. -/
def afterCalls (dumps : PyVal α → String) (calls : List (Call α)) : DatabaseManager α :=
  calls.foldl (called dumps) new

lemma rows_afterCalls (calls : List (Call α)) : (afterCalls dumps calls).rows table
    = (calls.filterMap (Call.letIn table)).map (table.row dumps) := by
  induction calls using List.reverseRecOn with
  | nil => rfl
  | append_singleton calls call ih =>
      have hlast : afterCalls dumps (calls ++ [call]) = (afterCalls dumps calls).called dumps call := by
        simp [afterCalls]
      rw [hlast, rows_called, ih, List.filterMap_append, List.map_append]
      congr 2

omit [Zero α] [DecidableEq α] in
/-- What has been written is read back when the texts can be. -/
lemma mapM_loads {loads : String → Except PyError (PyVal α)} {rows : List (Row α)} {values : List (PyVal α)}
    (h : List.Forall₂ (fun row v => loads row.payloadJson = .ok v) rows values) :
    rows.mapM (fun row => loads row.payloadJson) = .ok values := by
  induction h with
  | nil => rfl
  | cons hrow _ ih =>
      rw [List.mapM_cons, hrow]
      simp only [ih]
      rfl

/-- **What is read back**, of a table that can be read: of the payloads let in so far the last `limit`, the
last one first. -/
theorem fetchRecent_afterCalls {loads : String → Except PyError (PyVal α)}
    (htable : table ≠ .healthSnapshots) (calls : List (Call α))
    (hjson : ∀ payload ∈ calls.filterMap (Call.letIn table),
      loads (dumps (.dict payload)) = .ok (PyVal.dict payload).stored)
    {limit : ℤ} (hlimit : 0 < limit) : (afterCalls dumps calls).fetchRecent loads table limit
      = .ok (((calls.filterMap (Call.letIn table)).reverse.take limit.toNat).map
          fun payload => (PyVal.dict payload).stored) := by
  have hallowed : table ∈ [Table.trades, .executionReports, .riskEvents] := by
    cases table <;> simp_all
  rw [fetchRecent, if_neg (not_not_intro hallowed), if_neg (not_le.mpr hlimit), rows_afterCalls,
    ← List.map_reverse, ← List.map_take]
  refine mapM_loads ?_
  rw [List.forall₂_map_left_iff, List.forall₂_map_right_iff, List.forall₂_same]
  intro payload hpayload
  exact hjson payload (List.mem_reverse.mp (List.mem_of_mem_take hpayload))

end DatabaseManager

end Aegis
