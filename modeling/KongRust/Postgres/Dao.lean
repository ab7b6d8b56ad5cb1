import KongRust.Foundation.Fallible
import KongRust.Postgres.Statements

/-!
# The generic DAO

`PgDao<T>`: the statements of its methods and what they make of the answers. An entity is known by
what `to_value` makes of it.
-/

namespace KongRust.Postgres

open Fallible Dialogue
open Storage (KongError)

/-- A type that implements `Entity`. -/
structure Entity where
  /-- The schema, which has the name of `T::table_name()`. -/
  schema : EntitySchema
  endpointKey : Option String
  /-- The fields, with the identifier that `Default` draws. -/
  struct : Uuid → Serde.Struct

def Entity.tableName (T : Entity) : String := T.schema.tableName

/-- `serde_json::from_value`. -/
def Entity.fromValue (T : Entity) (drawn : Uuid) (given : Json) : Option Json :=
  (T.struct drawn).codec given

inductive PrimaryKey where
  | id (id : Uuid)
  | endpointKey (key : String)

/-- `PrimaryKey::from_str_or_uuid`. -/
def fromStrOrUuid (lib : Library) (s : String) : PrimaryKey :=
  match lib.parseStr s with
  | .ok id => .id id
  | .error _ => .endpointKey s

/-- `Debug` of a key. -/
def PrimaryKey.debug : PrimaryKey → String
  | .id uuid => "Id(" ++ uuid.text ++ ")"
  | .endpointKey key => "EndpointKey(\x22" ++ key ++ "\x22)"

abbrev Db (α : Type) := Dialogue Statement (Except KongError (List Row)) α

namespace PgDao

variable (lib : Library) (T : Entity)

/-- Every column of the schema is read, so that no identifier is drawn. -/
def rowToEntity (row : Row) : Except KongError Json := do
  let given ← rowJson lib T.schema row
  match T.fromValue 0 given with
  | some entity => return entity
  | none => throw (.serializationError ("行转实体失败: " ++ lib.fromValueError given))

/-- `fetch_one`. -/
def fetchOne (answer : Except KongError (List Row)) : Except KongError Json := do
  match ← answer with
  | row :: _ => rowToEntity lib T row
  | [] => throw (.notFound T.tableName "unknown")

def notSupported : KongError := .validationError "该实体不支持端点键查询"

def selectWhere (pk : PrimaryKey) : Except KongError (String × SqlParam) :=
  match pk with
  | .id id => .ok ("id", .uuid id)
  | .endpointKey key =>
    match T.endpointKey with
    | none => .error notSupported
    | some column =>
      match lib.parseStr key with
      | .ok id => .ok ("id", .uuid id)
      | .error _ => .ok (column, .text key)

def fetchOptional (answer : Except KongError (List Row)) : Except KongError (Option Json) := do
  match ← answer with
  | row :: _ => return some (← rowToEntity lib T row)
  | [] => return none

def select (pk : PrimaryKey) : Db (Except KongError (Option Json)) :=
  match selectWhere lib T pk with
  | .error e => return .error e
  | .ok (column, value) => do
    let answer ← Dialogue.put (.select .read T.tableName column value)
    return fetchOptional lib T answer

/-- The condition of `update` and `delete`. -/
def writeWhere (pk : PrimaryKey) : Except KongError (String × SqlParam) :=
  match pk with
  | .id id => .ok ("id", .uuid id)
  | .endpointKey key =>
    match lib.parseStr key, T.endpointKey with
    | .ok id, _ => .ok ("id", .uuid id)
    | .error _, some column => .ok (column, .text key)
    | .error _, none => .error notSupported

/-- The column that a field of an update sets, which is not the key or the time of creation. -/
def settable (field : String × Json) : Option (ColumnDef × Json) :=
  if field.1 = "id" ∨ field.1 = "created_at" then none
  else ((T.schema.findColumn field.1).filter ColumnDef.writable).map fun column =>
    (column, field.2)

def paramOf (part : ColumnDef × Json) : Except KongError (String × SqlParam) := do
  return (part.1.dbColumn, ← jsonToSqlParam lib part.2 part.1.colType)

def setParts (fields : List (String × Json)) : Except KongError Params :=
  (fields.filterMap (settable T)).mapM (paramOf lib)

/-- The parameters of an update, and whether it sets `updated_at` by itself. -/
def updateSet (given : Json) : Except KongError (Params × Bool) := do
  let fields ← orInvalid "更新数据必须是 JSON 对象" given.asObject
  if fields.isEmpty then throw (.validationError "更新数据不能为空")
  let set ← setParts lib T fields
  let touch := (T.schema.findColumn "updated_at").isSome && !given.contains "updated_at"
  if set.isEmpty && !touch then throw (.validationError "没有可更新的字段")
  return (set, touch)

def notFound (pk : PrimaryKey) : KongError := .notFound T.tableName pk.debug

def fetchUpdated (pk : PrimaryKey) (answer : Except KongError (List Row)) :
    Except KongError Json := do
  match ← answer with
  | row :: _ => rowToEntity lib T row
  | [] => throw (notFound T pk)

def updateStatement (pk : PrimaryKey) (given : Json) : Except KongError Statement := do
  let (set, touch) ← updateSet lib T given
  let (column, value) ← writeWhere lib T pk
  return .update T.tableName set touch column value

def update (pk : PrimaryKey) (given : Json) : Db (Except KongError Json) :=
  match updateStatement lib T pk given with
  | .error e => return .error e
  | .ok statement => do
    let answer ← Dialogue.put statement
    return fetchUpdated lib T pk answer

/-- Where the row that an upsert by endpoint key replaces is looked up. -/
def lookupWhere (pk : PrimaryKey) : Option (String × SqlParam) :=
  match pk with
  | .id _ => none
  | .endpointKey key => T.endpointKey.map fun column => (column, .text key)

/-- The parameters with the identifier of the row that was found; an error finds none. -/
def withFound (params : Params) (answer : Except KongError (List Row)) : Params :=
  match answer with
  | .ok (row :: _) => params.map fun param => if param.1 = "id" then ("id", row "id") else param
  | _ => params

def lookup (pk : PrimaryKey) (params : Params) : Db Params :=
  match lookupWhere T pk with
  | none => return params
  | some (column, value) => do
    let answer ← Dialogue.put (.select .primary T.tableName column value)
    return withFound params answer

def upsert (pk : PrimaryKey) (entity : Json) : Db (Except KongError Json) :=
  match entityToParams lib entity T.schema with
  | .error e => return .error e
  | .ok params => do
    let params ← lookup T pk params
    let answer ← Dialogue.put (.upsert T.tableName params)
    return fetchOne lib T answer

def delete (pk : PrimaryKey) : Db (Except KongError Unit) :=
  match writeWhere lib T pk with
  | .error e => return .error e
  | .ok (column, value) => do
    match ← Dialogue.put (.delete T.tableName column value) with
    | .error e => return .error e
    | .ok [] => return .error (notFound T pk)
    | .ok (_ :: _) => return .ok ()

/-! ## Parameters of an entity -/

variable {column : String}

theorem lookup_of_mem {params : Params} (hNodup : (params.map Prod.fst).Nodup) {param : SqlParam}
    (hMem : (column, param) ∈ params) : params.lookup column = some param := by
  induction params with
  | nil => cases hMem
  | cons head rest ih =>
    rw [List.map_cons, List.nodup_cons] at hNodup
    rcases List.mem_cons.mp hMem with rfl | hMem
    · rw [List.lookup_cons, beq_self_eq_true]
    · have hOther : (column == head.1) = false := by
        rw [beq_eq_false_iff_ne]
        rintro rfl
        exact hNodup.1 (List.mem_map.mpr ⟨_, hMem, rfl⟩)
      rw [List.lookup_cons, hOther]
      exact ih hNodup.2 hMem

section Params

variable {lib}

variable {entity : Json} {schema : EntitySchema} {params : Params}

theorem entityToParams_eq_ok (h : entityToParams lib entity schema = .ok params) :
    (schema.columns.filter ColumnDef.writable).mapM (fun column => do
      return (column.dbColumn, ← jsonToSqlParam lib (entity.field column.jsonName) column.colType)) =
      .ok params := by
  unfold entityToParams at h
  by_cases hObject : entity.isObject
  · rw [if_pos hObject] at h
    exact h
  · rw [if_neg hObject] at h
    cases h

theorem entityToParams_names (h : entityToParams lib entity schema = .ok params) :
    params.map Prod.fst = (schema.columns.filter ColumnDef.writable).map ColumnDef.dbColumn := by
  refine map_mapM (entityToParams_eq_ok h) fun column param hParam => ?_
  obtain ⟨value, -, hPair⟩ := bind_eq_ok.mp hParam
  cases hPair
  rfl

theorem entityToParams_nodup (hNamed : schema.Named)
    (h : entityToParams lib entity schema = .ok params) : (params.map Prod.fst).Nodup := by
  rw [entityToParams_names h]
  exact (List.filter_sublist.map _).nodup hNamed.dbColumns

theorem entityToParams_lookup (hNamed : schema.Named)
    (h : entityToParams lib entity schema = .ok params) {column : ColumnDef}
    (hMem : column ∈ schema.columns) (hWritable : column.writable) :
    ∃ param, jsonToSqlParam lib (entity.field column.jsonName) column.colType = .ok param ∧
      params.lookup column.dbColumn = some param := by
  obtain ⟨entry, hIn, hEntry⟩ := mapM_mem (entityToParams_eq_ok h)
    (List.mem_filter.mpr ⟨hMem, hWritable⟩)
  obtain ⟨param, hParam, hPair⟩ := bind_eq_ok.mp hEntry
  cases hPair
  exact ⟨param, hParam, lookup_of_mem (entityToParams_nodup hNamed h) hIn⟩

end Params

theorem withFound_found (params : Params) (row : Row) (rows : List Row) :
    withFound params (.ok (row :: rows)) =
      params.map fun param => if param.1 = "id" then ("id", row "id") else param := rfl

variable {found : Except KongError (List Row)}

theorem withFound_lookup {params : Params} (h : column ≠ "id") :
    (withFound params found).lookup column = params.lookup column := by
  have hMap (id : SqlParam) : (params.map fun param =>
      if param.1 = "id" then ("id", id) else param).lookup column = params.lookup column := by
    induction params with
    | nil => rfl
    | cons head rest ih =>
      rw [List.map_cons, List.lookup_cons, List.lookup_cons]
      by_cases hHead : head.1 = "id"
      · have hOther : (column == "id") = false := beq_eq_false_iff_ne.mpr h
        rw [if_pos hHead, hHead, hOther]
        exact ih
      · rw [if_neg hHead, ih]
  cases found with
  | error => rfl
  | ok rows =>
    cases rows with
    | nil => rfl
    | cons row rows => exact hMap (row "id")

theorem withFound_id {params : Params} {row : Row} {rows : List Row}
    (h : (params.lookup "id").isSome) :
    (withFound params (.ok (row :: rows))).lookup "id" = some (row "id") := by
  rw [withFound_found]
  induction params with
  | nil => cases h
  | cons head rest ih =>
    rw [List.map_cons, List.lookup_cons]
    by_cases hHead : head.1 = "id"
    · rw [if_pos hHead, beq_self_eq_true]
    · have hOther : ("id" == head.1) = false := beq_eq_false_iff_ne.mpr (Ne.symm hHead)
      rw [if_neg hHead, hOther]
      rw [List.lookup_cons, hOther] at h
      exact ih h

theorem withFound_missing {params : Params} (h : ∀ row rows, found ≠ .ok (row :: rows)) :
    withFound params found = params := by
  cases found with
  | error => rfl
  | ok rows =>
    cases rows with
    | nil => rfl
    | cons row rows => exact absurd rfl (h row rows)

/-! ## Rows that are read -/

section Read

variable {lib T} {row : Row} {entity : Json}

theorem rowToEntity_eq_ok : rowToEntity lib T row = .ok entity ↔
      ∃ given, rowJson lib T.schema row = .ok given ∧ T.fromValue 0 given = some entity := by
  unfold rowToEntity
  rw [bind_eq_ok]
  constructor
  · rintro ⟨given, hGiven, h⟩
    refine ⟨given, hGiven, ?_⟩
    cases hValue : T.fromValue 0 given with
    | none =>
      rw [hValue] at h
      cases h
    | some value =>
      rw [hValue] at h
      cases h
      rfl
  · rintro ⟨given, hGiven, h⟩
    refine ⟨given, hGiven, ?_⟩
    rw [h]
    rfl

variable {answer : Except KongError (List Row)}

theorem fetchOptional_eq_some (h : fetchOptional lib T answer = .ok (some entity)) :
    ∃ row rows, answer = .ok (row :: rows) ∧ rowToEntity lib T row = .ok entity := by
  obtain ⟨rows, rfl, h⟩ := bind_eq_ok.mp h
  cases rows with
  | nil => cases h
  | cons row rows =>
    change (rowToEntity lib T row >>= fun found => .ok (some found)) = .ok (some entity) at h
    obtain ⟨found, hFound, h⟩ := bind_eq_ok.mp h
    cases h
    exact ⟨row, rows, rfl, hFound⟩

theorem fetchOne_eq_ok (h : fetchOne lib T answer = .ok entity) :
    ∃ row rows, answer = .ok (row :: rows) ∧ rowToEntity lib T row = .ok entity := by
  obtain ⟨rows, rfl, h⟩ := bind_eq_ok.mp h
  cases rows with
  | nil => cases h
  | cons row rows => exact ⟨row, rows, rfl, h⟩

theorem fetchUpdated_eq_ok {pk : PrimaryKey} (h : fetchUpdated lib T pk answer = .ok entity) :
    ∃ row rows, answer = .ok (row :: rows) ∧ rowToEntity lib T row = .ok entity := by
  obtain ⟨rows, rfl, h⟩ := bind_eq_ok.mp h
  cases rows with
  | nil => cases h
  | cons row rows => exact ⟨row, rows, rfl, h⟩

theorem rowToEntity_field (hNamed : T.schema.Named)
    (hStruct : ((T.struct 0).map Serde.Field.name).Nodup) (h : rowToEntity lib T row = .ok entity)
    {column : ColumnDef} (hMem : column ∈ T.schema.columns) {field : Serde.Field}
    (hField : field ∈ T.struct 0) (hName : field.name = column.jsonName) :
    ∃ value, extractColumnValue lib T.tableName row column = .ok value ∧
      field.codec value = some (entity.field column.jsonName) := by
  obtain ⟨given, hGiven, hValue⟩ := rowToEntity_eq_ok.mp h
  obtain ⟨value, hColumn, hGet⟩ := rowJson_get hNamed hGiven hMem
  have hRead := Serde.Struct.codec_field hStruct hValue hField (isObject_rowJson hGiven)
  rw [hName, hGet] at hRead
  exact ⟨value, hColumn, hRead⟩

end Read

/-! ## What the methods ask -/

section Asked

variable {lib T} {pk : PrimaryKey} {e : KongError}

theorem select_error (h : selectWhere lib T pk = .error e) :
    select lib T pk = .done (.error e) := by
  unfold select
  rw [h]
  rfl

theorem select_ok {column : String} {value : SqlParam}
    (h : selectWhere lib T pk = .ok (column, value)) :
    select lib T pk = .ask (.select .read T.tableName column value) fun answer =>
      .done (fetchOptional lib T answer) := by
  unfold select
  rw [h]
  rfl

variable {given : Json}

theorem update_error (h : updateStatement lib T pk given = .error e) :
    update lib T pk given = .done (.error e) := by
  unfold update
  rw [h]
  rfl

theorem update_ok {statement : Statement} (h : updateStatement lib T pk given = .ok statement) :
    update lib T pk given = .ask statement fun answer => .done (fetchUpdated lib T pk answer) := by
  unfold update
  rw [h]
  rfl

variable {said : List (Statement × Except KongError (List Row))}

theorem lookup_cases {T : Entity} {pk : PrimaryKey} {params params' : Params}
    (h : Follows (lookup T pk params) said (.done params')) :
    (lookupWhere T pk = none ∧ said = [] ∧ params' = params) ∨
    ∃ column value found, lookupWhere T pk = some (column, value) ∧
      said = [(.select .primary T.tableName column value, found)] ∧
      params' = withFound params found := by
  unfold lookup at h
  cases hWhere : lookupWhere T pk with
  | none =>
    rw [hWhere] at h
    obtain ⟨rfl, hEq⟩ := follows_done.mp h
    cases hEq
    exact .inl ⟨rfl, rfl, rfl⟩
  | some condition =>
    rw [hWhere] at h
    obtain ⟨column, value⟩ := condition
    obtain ⟨_, _, found, rfl, hAsked, hDone⟩ := follows_bind.mp h
    obtain ⟨rfl, hEq⟩ := follows_done.mp hDone
    cases hEq
    cases follows_put.mp hAsked
    exact .inr ⟨column, value, found, rfl, rfl, rfl⟩

variable {result : Except KongError Json}

theorem upsert_cases {entity : Json} (h : Follows (upsert lib T pk entity) said (.done result)) :
    (∃ e, said = [] ∧ result = .error e) ∨
    ∃ params looked params' answer, entityToParams lib entity T.schema = .ok params ∧
      Follows (lookup T pk params) looked (.done params') ∧
      said = looked ++ [(.upsert T.tableName params', answer)] ∧
      result = fetchOne lib T answer := by
  unfold upsert at h
  cases hParams : entityToParams lib entity T.schema with
  | error e =>
    rw [hParams] at h
    obtain ⟨rfl, hEq⟩ := follows_done.mp h
    cases hEq
    exact .inl ⟨e, rfl, rfl⟩
  | ok params =>
    rw [hParams] at h
    obtain ⟨looked, _, params', rfl, hLooked, hRest⟩ := follows_bind.mp h
    obtain ⟨_, _, answer, rfl, hAsked, hDone⟩ := follows_bind.mp hRest
    obtain ⟨rfl, hEq⟩ := follows_done.mp hDone
    cases hEq
    cases follows_put.mp hAsked
    exact .inr ⟨params, looked, params', answer, rfl, hLooked, by rw [List.append_nil], rfl⟩

theorem select_cases {result : Except KongError (Option Json)}
    (h : Follows (select lib T pk) said (.done result)) :
    (∃ e, selectWhere lib T pk = .error e ∧ said = [] ∧ result = .error e) ∨
    ∃ column value answer, selectWhere lib T pk = .ok (column, value) ∧
      said = [(.select .read T.tableName column value, answer)] ∧
      result = fetchOptional lib T answer := by
  cases hWhere : selectWhere lib T pk with
  | error e =>
    rw [select_error hWhere] at h
    obtain ⟨rfl, hEq⟩ := follows_done.mp h
    cases hEq
    exact .inl ⟨e, rfl, rfl, rfl⟩
  | ok condition =>
    rw [select_ok hWhere] at h
    rcases follows_ask.mp h with ⟨-, hEq⟩ | ⟨answer, rest, rfl, hDone⟩
    · cases hEq
    · obtain ⟨rfl, hEq⟩ := follows_done.mp hDone
      cases hEq
      exact .inr ⟨_, _, answer, rfl, rfl, rfl⟩

theorem update_cases (h : Follows (update lib T pk given) said (.done result)) :
    (∃ e, said = [] ∧ result = .error e) ∨
    ∃ statement answer, updateStatement lib T pk given = .ok statement ∧
      said = [(statement, answer)] ∧ result = fetchUpdated lib T pk answer := by
  cases hStatement : updateStatement lib T pk given with
  | error e =>
    rw [update_error hStatement] at h
    obtain ⟨rfl, hEq⟩ := follows_done.mp h
    cases hEq
    exact .inl ⟨e, rfl, rfl⟩
  | ok statement =>
    rw [update_ok hStatement] at h
    rcases follows_ask.mp h with ⟨-, hEq⟩ | ⟨answer, rest, rfl, hDone⟩
    · cases hEq
    · obtain ⟨rfl, hEq⟩ := follows_done.mp hDone
      cases hEq
      exact .inr ⟨statement, answer, rfl, rfl, rfl⟩

theorem delete_cases {result : Except KongError Unit}
    (h : Follows (delete lib T pk) said (.done result)) :
    (∃ e, writeWhere lib T pk = .error e ∧ said = [] ∧ result = .error e) ∨
    ∃ column value answer, writeWhere lib T pk = .ok (column, value) ∧
      said = [(.delete T.tableName column value, answer)] := by
  unfold delete at h
  cases hWhere : writeWhere lib T pk with
  | error e =>
    rw [hWhere] at h
    obtain ⟨rfl, hEq⟩ := follows_done.mp h
    cases hEq
    exact .inl ⟨e, rfl, rfl, rfl⟩
  | ok condition =>
    rw [hWhere] at h
    obtain ⟨column, value⟩ := condition
    obtain ⟨_, rest, answer, rfl, hAsked, hDone⟩ := follows_bind.mp h
    cases follows_put.mp hAsked
    have hRest : rest = [] := by
      split at hDone
      all_goals exact (follows_done.mp hDone).1
    exact .inr ⟨column, value, answer, rfl, by rw [hRest]; rfl⟩

end Asked

theorem selectWhere_path (s : String) :
    selectWhere lib T (fromStrOrUuid lib s) = writeWhere lib T (fromStrOrUuid lib s) := by
  unfold fromStrOrUuid
  cases hParse : lib.parseStr s with
  | ok id => rfl
  | error e =>
    simp only [selectWhere, writeWhere, hParse]
    cases T.endpointKey <;> rfl

/-! ## What an update sets -/

variable {lib T} {part : ColumnDef × Json}

theorem settable_eq_some {field : String × Json} (h : settable T field = some part) :
    part.1 ∈ T.schema.columns ∧ part.1.jsonName = field.1 ∧ part.2 = field.2 ∧
      field.1 ≠ "id" ∧ field.1 ≠ "created_at" := by
  unfold settable at h
  by_cases hKey : field.1 = "id" ∨ field.1 = "created_at"
  · rw [if_pos hKey] at h
    cases h
  · rw [if_neg hKey] at h
    obtain ⟨column, hColumn, rfl⟩ := Option.map_eq_some_iff.mp h
    obtain ⟨hMem, hName⟩ := findColumn_eq_some (Option.filter_eq_some_iff.mp hColumn).1
    exact ⟨hMem, hName, rfl, fun hId => hKey (.inl hId), fun hCreated => hKey (.inr hCreated)⟩

theorem settable_column (h : T.schema.Named) {column : ColumnDef} (hMem : column ∈ T.schema.columns)
    (hWritable : column.writable) (hId : column.jsonName ≠ "id")
    (hCreated : column.jsonName ≠ "created_at") (value : Json) :
    settable T (column.jsonName, value) = some (column, value) := by
  have hKey : ¬ (column.jsonName = "id" ∨ column.jsonName = "created_at") := by
    rintro (hKey | hKey)
    · exact hId hKey
    · exact hCreated hKey
  unfold PgDao.settable
  rw [if_neg hKey, h.findColumn hMem, Option.filter_some, if_pos hWritable]
  rfl

theorem paramOf_eq_ok {param : String × SqlParam} :
    paramOf lib part = .ok param ↔
      jsonToSqlParam lib part.2 part.1.colType = .ok param.2 ∧ param.1 = part.1.dbColumn := by
  unfold paramOf
  cases jsonToSqlParam lib part.2 part.1.colType with
  | error e =>
    constructor
    · intro h
      cases h
    · rintro ⟨h, -⟩
      cases h
  | ok value =>
    constructor
    · intro h
      cases h
      exact ⟨rfl, rfl⟩
    · rintro ⟨h, hName⟩
      cases h
      exact congrArg Except.ok (Prod.ext hName.symm rfl)

variable {fields : List (String × Json)} {set : Params}

theorem setParts_id (hNamed : T.schema.Named) (h : setParts lib T fields = .ok set) :
    set.lookup "id" = none := by
  rw [List.lookup_eq_none_iff]
  intro param hMem
  obtain ⟨part, hPart, hOk⟩ := mem_mapM h hMem
  obtain ⟨field, -, hSettable⟩ := List.mem_filterMap.mp hPart
  obtain ⟨hColumn, hName, -, hId, -⟩ := settable_eq_some hSettable
  rw [bne_iff_ne, (paramOf_eq_ok.mp hOk).2]
  intro hKey
  have hPlain := hNamed.plain part.1 hColumn (by rw [← hKey]; decide)
  exact hId (hName.symm.trans (hPlain.trans hKey.symm))

theorem updateStatement_eq_ok {pk : PrimaryKey} {given : Json} {statement : Statement}
    (h : updateStatement lib T pk given = .ok statement) :
    ∃ fields set touch column value, given = .object fields ∧ setParts lib T fields = .ok set ∧
      writeWhere lib T pk = .ok (column, value) ∧
      statement = .update T.tableName set touch column value := by
  obtain ⟨⟨set, touch⟩, hSet, h⟩ := bind_eq_ok.mp h
  obtain ⟨⟨column, value⟩, hWhere, h⟩ := bind_eq_ok.mp h
  cases h
  obtain ⟨fields, hFields, hSet⟩ := bind_eq_ok.mp hSet
  cases given with
  | object given =>
    cases hFields
    dsimp only at hSet
    by_cases hEmpty : fields.isEmpty
    · rw [if_pos hEmpty] at hSet
      cases hSet
    · rw [if_neg hEmpty] at hSet
      obtain ⟨parts, hParts, hSet⟩ := bind_eq_ok.mp hSet
      split at hSet
      · cases hSet
      · cases hSet
        exact ⟨fields, set, _, column, value, rfl, hParts, hWhere, rfl⟩
  | _ => cases hFields

/-- A column is set to the value of its field, if there is one. -/
theorem setParts_lookup (hNamed : T.schema.Named) (h : setParts lib T fields = .ok set)
    {column : ColumnDef} (hMem : column ∈ T.schema.columns) (hWritable : column.writable)
    (hId : column.jsonName ≠ "id") (hCreated : column.jsonName ≠ "created_at") :
    ((Json.object fields).get column.jsonName = none ∧ set.lookup column.dbColumn = none) ∨
    ∃ value param, (Json.object fields).get column.jsonName = some value ∧
      jsonToSqlParam lib value column.colType = .ok param ∧
      set.lookup column.dbColumn = some param := by
  unfold setParts at h
  induction fields generalizing set with
  | nil =>
    cases h
    exact .inl ⟨rfl, rfl⟩
  | cons field fields ih =>
    have hSkip : field.1 ≠ column.jsonName → (Json.object (field :: fields)).get column.jsonName =
        (Json.object fields).get column.jsonName := by
      intro hNe
      simp [Json.get, hNe]
    cases hPart : PgDao.settable T field with
    | none =>
      rw [List.filterMap_cons_none hPart] at h
      have hNe : field.1 ≠ column.jsonName := by
        intro hName
        have hSome := settable_column hNamed hMem hWritable hId hCreated field.2
        rw [← hName, hPart] at hSome
        cases hSome
      rw [hSkip hNe]
      exact ih h
    | some part =>
      obtain ⟨hPartMem, hPartName, hValue, -, -⟩ := settable_eq_some hPart
      rw [List.filterMap_cons_some hPart, List.mapM_cons] at h
      cases hParam : paramOf lib part with
      | error e =>
        rw [hParam] at h
        cases h
      | ok param =>
        obtain ⟨hOk, hColumn⟩ := paramOf_eq_ok.mp hParam
        cases hRest : (fields.filterMap (PgDao.settable T)).mapM (paramOf lib) with
        | error e =>
          rw [hParam, hRest] at h
          cases h
        | ok rest =>
          rw [hParam, hRest] at h
          cases h
          by_cases hName : field.1 = column.jsonName
          · have hSame : part.1 = column :=
              List.inj_on_of_nodup_map hNamed.jsonNames hPartMem hMem (hPartName.trans hName)
            refine .inr ⟨field.2, param.2, ?_, ?_, ?_⟩
            · simp [Json.get, hName]
            · rw [← hValue, ← hSame]
              exact hOk
            · rw [List.lookup_cons, hColumn, hSame, beq_self_eq_true]
          · have hOther : (column.dbColumn == param.1) = false := by
              rw [beq_eq_false_iff_ne, hColumn]
              intro hDb
              have hSame := List.inj_on_of_nodup_map hNamed.dbColumns hMem hPartMem hDb
              exact hName (hPartName.symm.trans (congrArg ColumnDef.jsonName hSame).symm)
            rw [hSkip hName, List.lookup_cons, hOther]
            exact ih hRest

end PgDao

end KongRust.Postgres
