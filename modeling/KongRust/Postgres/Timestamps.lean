import KongRust.Postgres.Dao

/-!
# Time stamps in the database

What the expressions of `PgDao` around the columns of type `TIMESTAMPTZ` make of the seconds of an
entity, in a session with any time zone. The other columns hold their parameters.
-/

namespace KongRust.Postgres

open Fallible
open Storage (KongError)

/-! ## The conversions of PostgreSQL -/

def microsPerSecond : Int := 1000000

/-- A `timestamptz`, in microseconds since 1970-01-01 00:00:00 UTC. -/
structure Instant where
  micros : Int
  deriving DecidableEq

/-- A `timestamp` without a time zone, in nominal microseconds since 1970-01-01 00:00:00. -/
structure WallClock where
  micros : Int
  deriving DecidableEq

/-- The time zone of a session, by the seconds east of UTC that PostgreSQL takes for a wall clock
time, those that a change of the clock skips or repeats included. -/
structure SessionZone where
  offset : WallClock → Int

def Instant.inRange (micros : Int) : Option Instant :=
  if -210866803200 * microsPerSecond ≤ micros ∧ micros < 9224318016000 * microsPerSecond then
    some ⟨micros⟩
  else none

/-- `TO_TIMESTAMP`; outside the range of the type it fails. -/
def toTimestamp (seconds : Int) : Option Instant := Instant.inRange (seconds * microsPerSecond)

/-- `AT TIME ZONE 'UTC'`. -/
def Instant.atUtc (instant : Instant) : WallClock := ⟨instant.micros⟩

/-- The assignment of a `timestamp` to a column of type `TIMESTAMPTZ`. -/
def WallClock.assign (zone : SessionZone) (time : WallClock) : Option Instant :=
  Instant.inRange (time.micros - zone.offset time * microsPerSecond)

/-- `EXTRACT(EPOCH FROM …)` of a `timestamp`, and then `floor`. -/
def WallClock.epoch (time : WallClock) : Int := time.micros / microsPerSecond

/-! ## Rows -/

inductive Stored where
  | param (value : SqlParam)
  | timestamptz (instant : Instant)

/-- `TO_TIMESTAMP($n) AT TIME ZONE 'UTC'` of a time stamp, `$n` of anything else. -/
def storeParam (zone : SessionZone) : SqlParam → Option Stored
  | .timestampEpoch seconds =>
    (toTimestamp seconds).bind fun instant => (instant.atUtc.assign zone).map .timestamptz
  | value => some (.param value)

/-- The expression of `build_select_exprs`, with the `floor` of `extract_column_value`. -/
def Stored.select : Stored → SqlParam
  | .param value => value
  | .timestamptz instant => .timestampEpoch instant.atUtc.epoch

abbrev StoredRow := String → Stored

namespace StoredRow

def storeParams (zone : SessionZone) : Params → Option (List (String × Stored))
  | [] => some []
  | param :: params => do
    let stored ← storeParam zone param.2
    let rest ← storeParams zone params
    return (param.1, stored) :: rest

def write (zone : SessionZone) (row : StoredRow) (params : Params) : Option StoredRow :=
  (storeParams zone params).map fun stored column => (stored.lookup column).getD (row column)

def insert (zone : SessionZone) (params : Params) : Option StoredRow :=
  write zone (fun _ => .param .null) params

/-- `ON CONFLICT ("id") DO UPDATE SET` of the other columns. -/
def upsert (zone : SessionZone) (old : Option StoredRow) (params : Params) : Option StoredRow :=
  match old with
  | none => insert zone params
  | some row => row.write zone (withoutId params)

/-- An update, with `CURRENT_TIMESTAMP AT TIME ZONE 'UTC'` in `updated_at` if it sets that. -/
def update (zone : SessionZone) (row : StoredRow) (set : Params) (touch : Bool) (now : Instant) :
    Option StoredRow := do
  let row ← row.write zone set
  if touch then
    let stamp ← now.atUtc.assign zone
    return fun column => if column = "updated_at" then .timestamptz stamp else row column
  else return row

/-- The row that every `SELECT` and `RETURNING` gives. -/
def selected (row : StoredRow) : Row := fun column => (row column).select

end StoredRow

/-! ## The columns -/

/-- `ai_virtual_key_schema`. -/
def EntitySchema.serverOwnedColumn (schema : EntitySchema) (name : String) (colType : ColumnType) :
    EntitySchema :=
  { schema with columns := schema.columns ++ [⟨name, name, colType, false, false⟩] }

def aiVirtualKeySchema : EntitySchema :=
  (EntitySchema.new "ai_virtual_keys").pk.timestamps
    |>.text "name"
    |>.text "key_hash"
    |>.text "key_prefix"
    |>.column "consumer_id" "consumer_id" .uuid true
    |>.column "allowed_models" "allowed_models" .textArray true
    |>.integerOpt "tpm_limit"
    |>.integerOpt "rpm_limit"
    |>.decimalOpt "budget_limit"
    |>.serverOwnedColumn "budget_used" .decimal
    |>.serverOwnedColumn "budget_pending_count" .integer
    |>.serverOwnedColumn "budget_unresolved_count" .integer
    |>.serverOwnedColumn "budget_accounting_revision" .integer
    |>.serverOwnedColumn "budget_checkpoint_tail_events" .integer
    |>.serverOwnedColumn "budget_state_updated_at" .timestamp
    |>.serverOwnedColumn "budget_accounting_state" .text
    |>.boolean "enabled"
    |>.column "expires_at" "expires_at" .timestamp true
    |>.tags
    |>.wsId

/-- A column that an entity fills with a time stamp of its own. -/
structure EntitySchema.HasTimestamp (schema : EntitySchema) (column : ColumnDef) : Prop where
  mem : column ∈ schema.columns
  writable : column.writable = true
  colType : column.colType = .timestamp

variable {schema : EntitySchema} {column : ColumnDef} {zone : SessionZone}

theorem hasTimestamp_created_updated (h : schema ∈ aiVirtualKeySchema :: schemas) {name : String}
    (hName : name ∈ ["created_at", "updated_at"]) :
    schema.HasTimestamp ⟨name, name, .timestamp, false, true⟩ := by
  have hMem : ∀ schema ∈ aiVirtualKeySchema :: schemas, ∀ name ∈ ["created_at", "updated_at"],
      (⟨name, name, .timestamp, false, true⟩ : ColumnDef) ∈ schema.columns := by decide
  exact ⟨hMem schema h name hName, rfl, rfl⟩

theorem EntitySchema.HasTimestamp.ne_id (hNamed : schema.Named) (h : schema.HasTimestamp column) :
    column.dbColumn ≠ "id" := by
  intro hId
  have hKey : idColumn ∈ schema.columns := List.mem_of_head? hNamed.key
  have hSame := List.inj_on_of_nodup_map hNamed.dbColumns h.mem hKey hId
  have hType := h.colType
  rw [hSame] at hType
  cases hType

/-! ## What is read back -/

namespace StoredRow

variable {zone : SessionZone} {params : Params} {param : SqlParam}

theorem storeParams_lookup {stored : List (String × Stored)}
    (h : storeParams zone params = some stored) {column : String}
    (hParam : params.lookup column = some param) :
    ∃ value, storeParam zone param = some value ∧ stored.lookup column = some value := by
  induction params generalizing stored with
  | nil => cases hParam
  | cons head params ih =>
    obtain ⟨first, hFirst, h⟩ := Option.bind_eq_some_iff.mp h
    obtain ⟨rest, hRest, h⟩ := Option.bind_eq_some_iff.mp h
    cases h
    rw [List.lookup_cons] at hParam ⊢
    cases hSame : column == head.1 with
    | true =>
      rw [hSame] at hParam
      cases hParam
      exact ⟨first, hFirst, rfl⟩
    | false =>
      rw [hSame] at hParam
      exact ih hRest hParam

variable {row written : StoredRow}

theorem write_lookup (h : row.write zone params = some written) {column : String}
    (hParam : params.lookup column = some param) :
    storeParam zone param = some (written column) := by
  obtain ⟨stored, hStored, rfl⟩ := Option.map_eq_some_iff.mp h
  obtain ⟨value, hValue, hLookup⟩ := storeParams_lookup hStored hParam
  dsimp only
  rw [hLookup, hValue]
  rfl

theorem lookup_withoutId (params : Params) {column : String} (h : column ≠ "id") :
    (withoutId params).lookup column = params.lookup column := by
  unfold withoutId
  induction params with
  | nil => rfl
  | cons param params ih =>
    by_cases hId : param.1 = "id"
    · have hOther : (column == param.1) = false := by
        rw [hId]
        exact beq_eq_false_iff_ne.mpr h
      rw [List.filter_cons_of_neg (by simp [hId]), List.lookup_cons, hOther, ih]
    · rw [List.filter_cons_of_pos (by simpa using hId), List.lookup_cons, List.lookup_cons, ih]

theorem upsert_lookup {old : Option StoredRow} (h : upsert zone old params = some written)
    {column : String} (hId : column ≠ "id") (hParam : params.lookup column = some param) :
    storeParam zone param = some (written column) := by
  cases old with
  | none => exact write_lookup h hParam
  | some row =>
    rw [← lookup_withoutId params hId] at hParam
    exact write_lookup h hParam

theorem update_lookup {set : Params} {touch : Bool} {now : Instant}
    (h : row.update zone set touch now = some written) {column : String}
    (hTouch : touch = true → column ≠ "updated_at") (hParam : set.lookup column = some param) :
    storeParam zone param = some (written column) := by
  obtain ⟨middle, hMiddle, h⟩ := Option.bind_eq_some_iff.mp h
  have hWritten := write_lookup hMiddle hParam
  cases touch with
  | false =>
    cases h
    exact hWritten
  | true =>
    obtain ⟨stamp, -, h⟩ := Option.bind_eq_some_iff.mp h
    cases h
    dsimp only
    rw [if_neg (hTouch rfl)]
    exact hWritten

end StoredRow

theorem Instant.inRange_eq_some {micros : Int} {instant : Instant}
    (h : Instant.inRange micros = some instant) :
    instant.micros = micros ∧ -210866803200 * microsPerSecond ≤ micros ∧
      micros < 9224318016000 * microsPerSecond := by
  unfold Instant.inRange at h
  split at h
  · rename_i hRange
    cases h
    exact ⟨rfl, hRange⟩
  · cases h

theorem storeParam_select {seconds : Int} {stored : Stored}
    (h : storeParam zone (.timestampEpoch seconds) = some stored) :
    stored.select = .timestampEpoch (seconds - zone.offset ⟨seconds * microsPerSecond⟩) ∧
      -(2 ^ 63) ≤ seconds - zone.offset ⟨seconds * microsPerSecond⟩ ∧
        seconds - zone.offset ⟨seconds * microsPerSecond⟩ < 2 ^ 63 := by
  obtain ⟨instant, hInstant, h⟩ := Option.bind_eq_some_iff.mp h
  obtain ⟨assigned, hAssigned, rfl⟩ := Option.map_eq_some_iff.mp h
  obtain ⟨hMicros, -, -⟩ := Instant.inRange_eq_some hInstant
  obtain ⟨hStored, hLow, hHigh⟩ := Instant.inRange_eq_some hAssigned
  have hUtc : instant.atUtc = ⟨seconds * microsPerSecond⟩ := congrArg WallClock.mk hMicros
  rw [hUtc, ← Int.sub_mul] at hStored hLow hHigh
  have hEpoch : assigned.atUtc.epoch = seconds - zone.offset ⟨seconds * microsPerSecond⟩ := by
    unfold WallClock.epoch Instant.atUtc
    dsimp only
    rw [hStored]
    exact Int.mul_ediv_cancel _ (by decide)
  refine ⟨congrArg SqlParam.timestampEpoch hEpoch, ?_, ?_⟩
  · unfold microsPerSecond at *
    omega
  · unfold microsPerSecond at *
    omega

variable {lib : Library}

theorem extract_eq_iff (hColumn : schema.HasTimestamp column) {row : StoredRow} (seconds : Int64)
    (h : storeParam zone (.timestampEpoch seconds.toInt) = some (row column.dbColumn)) :
    extractColumnValue lib schema.tableName row.selected column = .ok (.ofInt seconds.toInt) ↔
      zone.offset ⟨seconds.toInt * microsPerSecond⟩ = 0 := by
  obtain ⟨hSelect, hLow, hHigh⟩ := storeParam_select h
  have hRead : row.selected column.dbColumn =
      .timestampEpoch (seconds.toInt - zone.offset ⟨seconds.toInt * microsPerSecond⟩) := hSelect
  have hValue : extractColumnValue lib schema.tableName row.selected column =
      .ok (.ofInt (seconds.toInt - zone.offset ⟨seconds.toInt * microsPerSecond⟩)) := by
    unfold extractColumnValue
    rw [hColumn.colType, hRead]
  rw [hValue]
  constructor
  · intro hSame
    have hNumber := congrArg Json.asI64 (Except.ok.inj hSame)
    rw [Json.asI64_ofInt hLow hHigh, Json.asI64_ofInt seconds.le_toInt seconds.toInt_lt] at hNumber
    have hEq := Option.some_inj.mp hNumber
    omega
  · intro hZero
    rw [hZero, Int.sub_zero]

theorem jsonToSqlParam_timestamp (lib : Library) (seconds : Int64) :
    jsonToSqlParam lib (.ofInt seconds.toInt) .timestamp =
      .ok (.timestampEpoch seconds.toInt) := by
  have hNull : (Json.ofInt seconds.toInt).isNull = false := by
    unfold Json.ofInt
    split
    · rfl
    · rfl
  unfold jsonToSqlParam
  rw [hNull, if_neg Bool.false_ne_true]
  dsimp only
  rw [Json.asI64_ofInt seconds.le_toInt seconds.toInt_lt]
  rfl

theorem updateSet_eq_ok {T : Entity} {given : Json} {set : Params} {touch : Bool}
    (h : PgDao.updateSet lib T given = .ok (set, touch)) :
    ∃ fields, given = .object fields ∧ PgDao.setParts lib T fields = .ok set ∧
      (touch = true → given.contains "updated_at" = false) := by
  obtain ⟨fields, hFields, h⟩ := bind_eq_ok.mp h
  cases given with
  | object given =>
    cases hFields
    dsimp only at h
    by_cases hEmpty : fields.isEmpty
    · rw [if_pos hEmpty] at h
      cases h
    · rw [if_neg hEmpty] at h
      obtain ⟨parts, hParts, h⟩ := bind_eq_ok.mp h
      split at h
      · cases h
      · cases h
        refine ⟨fields, rfl, hParts, fun hTouch => ?_⟩
        rw [Bool.and_eq_true, Bool.not_eq_true'] at hTouch
        exact hTouch.2
  | _ => cases hFields

/-- A time stamp comes back as it was given exactly when the session takes no offset for the wall
clock time that it is in UTC. -/
theorem timestamp_read_back (lib : Library) (zone : SessionZone) (T : Entity)
    (hNamed : T.schema.Named) (column : ColumnDef) (hColumn : T.schema.HasTimestamp column)
    (seconds : Int64) :
    (∀ (entity : Json) (params : Params) (row : StoredRow),
      entityToParams lib entity T.schema = .ok params →
      entity.field column.jsonName = .ofInt seconds.toInt →
      StoredRow.insert zone params = some row →
      (extractColumnValue lib T.tableName row.selected column = .ok (.ofInt seconds.toInt) ↔
        zone.offset ⟨seconds.toInt * microsPerSecond⟩ = 0)) ∧
    (∀ (entity : Json) (params : Params) (found : Except KongError (List Row))
      (old : Option StoredRow) (row : StoredRow),
      entityToParams lib entity T.schema = .ok params →
      entity.field column.jsonName = .ofInt seconds.toInt →
      StoredRow.upsert zone old (PgDao.withFound params found) = some row →
      (extractColumnValue lib T.tableName row.selected column = .ok (.ofInt seconds.toInt) ↔
        zone.offset ⟨seconds.toInt * microsPerSecond⟩ = 0)) ∧
    ∀ (given : Json) (set : Params) (touch : Bool) (old row : StoredRow) (now : Instant),
      PgDao.updateSet lib T given = .ok (set, touch) → column.jsonName ≠ "created_at" →
      given.get column.jsonName = some (.ofInt seconds.toInt) →
      old.update zone set touch now = some row →
      (extractColumnValue lib T.tableName row.selected column = .ok (.ofInt seconds.toInt) ↔
        zone.offset ⟨seconds.toInt * microsPerSecond⟩ = 0) := by
  have hId := hColumn.ne_id hNamed
  have hParam {entity : Json} {params : Params}
      (hParams : entityToParams lib entity T.schema = .ok params)
      (hField : entity.field column.jsonName = .ofInt seconds.toInt) :
      params.lookup column.dbColumn = some (.timestampEpoch seconds.toInt) := by
    obtain ⟨param, hOk, hLookup⟩ := PgDao.entityToParams_lookup hNamed hParams hColumn.mem
      hColumn.writable
    rw [hField, hColumn.colType, jsonToSqlParam_timestamp] at hOk
    cases hOk
    exact hLookup
  refine ⟨fun entity params row hParams hField hRow => ?_,
    fun entity params found old row hParams hField hRow => ?_,
    fun given set touch old row now hSet hCreated hGiven hRow => ?_⟩
  · exact extract_eq_iff hColumn seconds (StoredRow.write_lookup hRow (hParam hParams hField))
  · have hLookup := hParam hParams hField
    have hKept : (PgDao.withFound params found).lookup column.dbColumn =
        params.lookup column.dbColumn := PgDao.withFound_lookup hId
    rw [← hKept] at hLookup
    exact extract_eq_iff hColumn seconds (StoredRow.upsert_lookup hRow hId hLookup)
  · obtain ⟨fields, rfl, hParts, hTouch⟩ := updateSet_eq_ok hSet
    have hJsonId : column.jsonName ≠ "id" := by
      intro hName
      have hKey : idColumn ∈ T.schema.columns := List.mem_of_head? hNamed.key
      have hSame := List.inj_on_of_nodup_map hNamed.jsonNames hColumn.mem hKey hName
      exact hId (congrArg ColumnDef.dbColumn hSame)
    have hOther : touch = true → column.dbColumn ≠ "updated_at" := by
      intro hTrue hUpdated
      have hPlain := hNamed.plain column hColumn.mem (by rw [hUpdated]; decide)
      have hMissing := hTouch hTrue
      rw [← hUpdated, ← hPlain] at hMissing
      unfold Json.contains at hMissing
      rw [hGiven] at hMissing
      cases hMissing
    obtain ⟨hNone, -⟩ | ⟨value, param, hValue, hOk, hLookup⟩ :=
      PgDao.setParts_lookup hNamed hParts hColumn.mem hColumn.writable hJsonId hCreated
    · rw [hGiven] at hNone
      cases hNone
    · rw [hGiven] at hValue
      cases hValue
      rw [hColumn.colType, jsonToSqlParam_timestamp] at hOk
      cases hOk
      exact extract_eq_iff hColumn seconds (StoredRow.update_lookup hRow hOther hLookup)

/-! ### A session outside UTC -/

def utc : SessionZone := ⟨fun _ => 0⟩

/-- `Asia/Shanghai` since 1991. -/
def shanghai : SessionZone := ⟨fun _ => 28800⟩

def sampleEntity : Entity := ⟨consumerSchema, some "username", fun _ => []⟩

/-- The parts of the libraries that the consumer below asks for. -/
def sampleLibrary : Library where
  parseStr _ := .ok 1
  parseDecimal _ := .error "invalid decimal"
  modelCost _ := none
  decimalText _ := "0"
  decodeError := "mismatched types"
  fromValueError _ := "invalid type"
  jsonText _ := ""

def sampleConsumer : Json := .object
  [("created_at", .ofInt (1700000000 : Int64).toInt),
    ("id", .string "00000000-0000-0000-0000-000000000001"),
    ("updated_at", .ofInt (1700000000 : Int64).toInt), ("username", .string "ada")]

def sampleParams : Params :=
  [("id", .uuid 1), ("created_at", .timestampEpoch (1700000000 : Int64).toInt),
    ("updated_at", .timestampEpoch (1700000000 : Int64).toInt), ("username", .text "ada"),
    ("custom_id", .null), ("tags", .null), ("ws_id", .null)]

theorem sampleParams_eq :
    entityToParams sampleLibrary sampleConsumer consumerSchema = .ok sampleParams := by rfl

def createdAt : ColumnDef := ⟨"created_at", "created_at", .timestamp, false, true⟩

theorem consumerSchema_mem : consumerSchema ∈ schemas :=
  List.mem_cons_of_mem _ (List.mem_cons_of_mem _ List.mem_cons_self)

theorem createdAt_timestamp : consumerSchema.HasTimestamp createdAt :=
  hasTimestamp_created_updated (List.mem_cons_of_mem _ consumerSchema_mem) List.mem_cons_self

theorem consumerSchema_named : consumerSchema.Named := named_of_mem_schemas consumerSchema_mem

theorem timestamp_read_back_sample : ∃ row, StoredRow.insert utc sampleParams = some row ∧
      extractColumnValue sampleLibrary "consumers" row.selected createdAt =
        .ok (.ofInt (1700000000 : Int64).toInt) := by
  obtain ⟨hInsert, -, -⟩ := timestamp_read_back sampleLibrary utc sampleEntity consumerSchema_named
    createdAt createdAt_timestamp 1700000000
  exact ⟨_, rfl, (hInsert sampleConsumer sampleParams _ sampleParams_eq rfl rfl).mpr rfl⟩

/-- Written in a session of Shanghai, a time stamp comes back eight hours earlier. -/
theorem timestamp_shifted :
    ¬ ∀ (lib : Library) (zone : SessionZone) (T : Entity) (column : ColumnDef) (seconds : Int64)
      (entity : Json) (params : Params) (row : StoredRow), T.schema.Named →
      T.schema.HasTimestamp column → entityToParams lib entity T.schema = .ok params →
      entity.field column.jsonName = .ofInt seconds.toInt →
      StoredRow.insert zone params = some row →
      extractColumnValue lib T.tableName row.selected column = .ok (.ofInt seconds.toInt) := by
  intro h
  have hSame := h sampleLibrary shanghai sampleEntity createdAt 1700000000 sampleConsumer
    sampleParams _ consumerSchema_named createdAt_timestamp sampleParams_eq rfl rfl
  have hRead : (Json.ofInt 1699971200) = .ofInt (1700000000 : Int64).toInt := Except.ok.inj hSame
  have hNumber := congrArg Json.asI64 hRead
  rw [Json.asI64_ofInt (by decide) (by decide)] at hNumber
  cases hNumber

end KongRust.Postgres
