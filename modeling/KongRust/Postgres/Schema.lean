import KongRust.Foundation.Fallible
import KongRust.Foundation.Serde
import KongRust.Storage.Dbless

/-!
# Columns of the entities

`EntitySchema` and the way a field of an entity becomes a parameter of a statement, and a column of
a row a field. No schema has a column of the types `Float` and `TimestampMs`. The entity
`AiVirtualKey` has a store of its own.
-/

namespace KongRust.Postgres

open Fallible
open Storage (KongError)

inductive ColumnType where
  | uuid
  | text
  | integer
  | decimal
  | boolean
  | timestamp
  | jsonb
  | textArray
  | jsonbArray
  | uuidArray
  | foreignKey
  deriving DecidableEq

structure ColumnDef where
  jsonName : String
  dbColumn : String
  colType : ColumnType
  nullable : Bool
  writable : Bool
  deriving DecidableEq

structure EntitySchema where
  tableName : String
  columns : List ColumnDef

namespace EntitySchema

def new (tableName : String) : EntitySchema := ⟨tableName, []⟩

variable (schema : EntitySchema)

def column (schema : EntitySchema) (jsonName dbColumn : String) (colType : ColumnType)
    (nullable : Bool) : EntitySchema :=
  { schema with columns := schema.columns ++ [⟨jsonName, dbColumn, colType, nullable, true⟩] }

def pk (schema : EntitySchema) : EntitySchema := schema.column "id" "id" .uuid false

def timestamps (schema : EntitySchema) : EntitySchema :=
  (schema.column "created_at" "created_at" .timestamp false).column "updated_at" "updated_at"
    .timestamp false

def tags (schema : EntitySchema) : EntitySchema := schema.column "tags" "tags" .textArray true

def text (schema : EntitySchema) (name : String) : EntitySchema :=
  schema.column name name .text false

variable (name : String)

def textOpt (schema : EntitySchema) (name : String) : EntitySchema :=
  schema.column name name .text true

def integer (schema : EntitySchema) (name : String) : EntitySchema :=
  schema.column name name .integer false

def integerOpt (schema : EntitySchema) (name : String) : EntitySchema :=
  schema.column name name .integer true

def boolean (schema : EntitySchema) (name : String) : EntitySchema :=
  schema.column name name .boolean false

def booleanOpt (schema : EntitySchema) (name : String) : EntitySchema :=
  schema.column name name .boolean true

def jsonb (schema : EntitySchema) (name : String) : EntitySchema :=
  schema.column name name .jsonb true

def foreignKey (schema : EntitySchema) (name : String) : EntitySchema :=
  schema.column name (name ++ "_id") .foreignKey true

def foreignKeyRequired (schema : EntitySchema) (name : String) : EntitySchema :=
  schema.column name (name ++ "_id") .foreignKey false

def textArray (schema : EntitySchema) (name : String) : EntitySchema :=
  schema.column name name .textArray true

def jsonbArray (schema : EntitySchema) (name : String) : EntitySchema :=
  schema.column name name .jsonbArray true

def uuidArray (schema : EntitySchema) (name : String) : EntitySchema :=
  schema.column name name .uuidArray true

def decimalOpt (schema : EntitySchema) (name : String) : EntitySchema :=
  schema.column name name .decimal true

def wsId (schema : EntitySchema) : EntitySchema := schema.column "ws_id" "ws_id" .uuid true

def findColumn (schema : EntitySchema) (jsonName : String) : Option ColumnDef :=
  schema.columns.find? fun column => column.jsonName == jsonName

end EntitySchema

/-! ## The schemas -/

def serviceSchema : EntitySchema :=
  (EntitySchema.new "services").pk.timestamps
    |>.textOpt "name"
    |>.integer "retries"
    |>.text "protocol"
    |>.text "host"
    |>.integer "port"
    |>.textOpt "path"
    |>.integer "connect_timeout"
    |>.integer "write_timeout"
    |>.integer "read_timeout"
    |>.tags
    |>.foreignKey "client_certificate"
    |>.booleanOpt "tls_verify"
    |>.integerOpt "tls_verify_depth"
    |>.uuidArray "ca_certificates"
    |>.boolean "enabled"
    |>.wsId

def routeSchema : EntitySchema :=
  (EntitySchema.new "routes").pk.timestamps
    |>.textOpt "name"
    |>.textArray "protocols"
    |>.textArray "methods"
    |>.textArray "hosts"
    |>.textArray "paths"
    |>.jsonb "headers"
    |>.integer "https_redirect_status_code"
    |>.integer "regex_priority"
    |>.boolean "strip_path"
    |>.text "path_handling"
    |>.boolean "preserve_host"
    |>.boolean "request_buffering"
    |>.boolean "response_buffering"
    |>.tags
    |>.foreignKey "service"
    |>.textArray "snis"
    |>.jsonbArray "sources"
    |>.jsonbArray "destinations"
    |>.textOpt "expression"
    |>.integerOpt "priority"
    |>.wsId

def consumerSchema : EntitySchema :=
  (EntitySchema.new "consumers").pk.timestamps
    |>.textOpt "username"
    |>.textOpt "custom_id"
    |>.tags
    |>.wsId

def upstreamSchema : EntitySchema :=
  (EntitySchema.new "upstreams").pk.timestamps
    |>.text "name"
    |>.text "algorithm"
    |>.textOpt "hash_on_cookie_path"
    |>.text "hash_on"
    |>.text "hash_fallback"
    |>.textOpt "hash_on_header"
    |>.textOpt "hash_fallback_header"
    |>.textOpt "hash_on_cookie"
    |>.textOpt "hash_on_query_arg"
    |>.textOpt "hash_fallback_query_arg"
    |>.textOpt "hash_on_uri_capture"
    |>.textOpt "hash_fallback_uri_capture"
    |>.integer "slots"
    |>.jsonb "healthchecks"
    |>.tags
    |>.textOpt "host_header"
    |>.foreignKey "client_certificate"
    |>.boolean "use_srv_name"
    |>.wsId

def targetSchema : EntitySchema :=
  (EntitySchema.new "targets").pk.timestamps
    |>.text "target"
    |>.integer "weight"
    |>.textOpt "cache_key"
    |>.tags
    |>.foreignKeyRequired "upstream"
    |>.wsId

def pluginSchema : EntitySchema :=
  (EntitySchema.new "plugins").pk.timestamps
    |>.text "name"
    |>.jsonb "config"
    |>.boolean "enabled"
    |>.textOpt "instance_name"
    |>.textArray "protocols"
    |>.textOpt "cache_key"
    |>.tags
    |>.foreignKey "route"
    |>.foreignKey "service"
    |>.foreignKey "consumer"
    |>.wsId

def certificateSchema : EntitySchema :=
  (EntitySchema.new "certificates").pk.timestamps
    |>.text "cert"
    |>.text "key"
    |>.textOpt "cert_alt"
    |>.textOpt "key_alt"
    |>.tags
    |>.wsId

def sniSchema : EntitySchema :=
  (EntitySchema.new "snis").pk.timestamps
    |>.text "name"
    |>.tags
    |>.foreignKeyRequired "certificate"
    |>.wsId

def caCertificateSchema : EntitySchema :=
  (EntitySchema.new "ca_certificates").pk.timestamps
    |>.text "cert"
    |>.textOpt "cert_digest"
    |>.tags
    |>.wsId

def keySetSchema : EntitySchema :=
  (EntitySchema.new "key_sets").pk.timestamps
    |>.textOpt "name"
    |>.tags
    |>.wsId

def keySchema : EntitySchema :=
  (EntitySchema.new "keys").pk.timestamps
    |>.foreignKey "set"
    |>.textOpt "name"
    |>.text "kid"
    |>.textOpt "jwk"
    |>.jsonb "pem"
    |>.textOpt "cache_key"
    |>.tags
    |>.wsId

def vaultSchema : EntitySchema :=
  (EntitySchema.new "sm_vaults").pk.timestamps
    |>.text "prefix"
    |>.text "name"
    |>.textOpt "description"
    |>.jsonb "config"
    |>.tags
    |>.wsId

def aiProviderSchema : EntitySchema :=
  (EntitySchema.new "ai_providers").pk.timestamps
    |>.text "name"
    |>.text "provider_type"
    |>.textOpt "endpoint_url"
    |>.jsonb "auth_config"
    |>.textOpt "default_model"
    |>.jsonb "config"
    |>.boolean "enabled"
    |>.tags
    |>.wsId

def aiModelSchema : EntitySchema :=
  (EntitySchema.new "ai_models").pk.timestamps
    |>.text "name"
    |>.column "provider_id" "provider_id" .uuid false
    |>.text "model_name"
    |>.integer "priority"
    |>.integer "weight"
    |>.decimalOpt "input_cost"
    |>.decimalOpt "output_cost"
    |>.integerOpt "max_tokens"
    |>.integerOpt "max_input_tokens"
    |>.jsonb "config"
    |>.boolean "enabled"
    |>.tags
    |>.wsId

def schemas : List EntitySchema :=
  [serviceSchema, routeSchema, consumerSchema, upstreamSchema, targetSchema, pluginSchema,
    certificateSchema, sniSchema, caCertificateSchema, keySetSchema, keySchema, vaultSchema,
    aiProviderSchema, aiModelSchema]

def idColumn : ColumnDef := ⟨"id", "id", .uuid, false, true⟩

/-- The fields and the columns of a schema have different names; the first one is the key, and the
columns of the key and the times are named like their fields. -/
structure EntitySchema.Named (schema : EntitySchema) : Prop where
  jsonNames : (schema.columns.map ColumnDef.jsonName).Nodup
  dbColumns : (schema.columns.map ColumnDef.dbColumn).Nodup
  key : schema.columns.head? = some idColumn
  plain : ∀ column ∈ schema.columns, column.dbColumn ∈ ["id", "created_at", "updated_at"] →
    column.jsonName = column.dbColumn

theorem named_of_mem_schemas {schema : EntitySchema} (h : schema ∈ schemas) : schema.Named := by
  have hJson : ∀ schema ∈ schemas, (schema.columns.map ColumnDef.jsonName).Nodup := by decide
  have hDb : ∀ schema ∈ schemas, (schema.columns.map ColumnDef.dbColumn).Nodup := by decide
  have hKey : ∀ schema ∈ schemas, schema.columns.head? = some idColumn := by decide
  have hPlain : ∀ schema ∈ schemas, ∀ column ∈ schema.columns,
      column.dbColumn ∈ ["id", "created_at", "updated_at"] → column.jsonName = column.dbColumn := by
    decide
  exact ⟨hJson schema h, hDb schema h, hKey schema h, hPlain schema h⟩

theorem findColumn_eq_some {schema : EntitySchema} {name : String} {column : ColumnDef}
    (h : schema.findColumn name = some column) :
    column ∈ schema.columns ∧ column.jsonName = name :=
  ⟨List.mem_of_find?_eq_some h, beq_iff_eq.mp (List.find?_some h :)⟩

theorem EntitySchema.Named.findColumn {schema : EntitySchema} (h : schema.Named)
    {column : ColumnDef} (hMem : column ∈ schema.columns) :
    schema.findColumn column.jsonName = some column := by
  cases hFind : schema.findColumn column.jsonName with
  | none =>
    have hNone := List.find?_eq_none.mp hFind column hMem
    simp at hNone
  | some other =>
    obtain ⟨hOther, hName⟩ := findColumn_eq_some hFind
    rw [List.inj_on_of_nodup_map h.jsonNames hOther hMem hName]

/-! ## Parameters -/

/-- A parameter of a statement, and a value in a column. The `None`s of all kinds are one, a
decimal counts units of its twelfth place, and a timestamp seconds. -/
inductive SqlParam where
  | null
  | uuid (id : Uuid)
  | text (s : String)
  | integer (n : Int)
  | decimal (units : Nat)
  | boolean (b : Bool)
  | jsonb (value : Json)
  | textArray (items : List String)
  | jsonbArray (items : List Json)
  | uuidArray (ids : List Uuid)
  | timestampEpoch (seconds : Int)

/-- What is used of `uuid`, `rust_decimal`, `serde` and `sqlx`, and the texts of their errors. -/
structure Library where
  /-- `Uuid::parse_str`. -/
  parseStr : String → Except String Uuid
  /-- `parse_decimal_json`. -/
  parseDecimal : Json → Except String Nat
  /-- `deserialize_optional_model_cost`, of a value that is not `null`. -/
  modelCost : Json → Option Nat
  /-- The text of a decimal with twelve places. -/
  decimalText : Nat → String
  /-- The error of a column that cannot be decoded. -/
  decodeError : String
  /-- The error of `from_value`. -/
  fromValueError : Json → String
  /-- `Value::to_string`. -/
  jsonText : Json → String

def Library.ReadsIds (lib : Library) : Prop := ∀ id : Uuid, lib.parseStr id.text = .ok id

theorem Library.ReadsIds.text_inj {lib : Library} (h : lib.ReadsIds) {a b : Uuid}
    (hText : a.text = b.text) : a = b := by
  have hA := h a
  rw [hText, h b] at hA
  cases hA
  rfl

section Params

variable (lib : Library)

def parseUuid (message : String) (s : String) : Except KongError Uuid :=
  (lib.parseStr s).mapError fun e => .validationError (message ++ e)

def orInvalid {α : Type} (message : String) (value : Option α) : Except KongError α :=
  match value with
  | some value => .ok value
  | none => .error (.validationError message)

def foreignKeyParam (value : Json) : Except KongError SqlParam :=
  match value.isObject, value.get "id" with
  | true, some id => do
    let s ← orInvalid "外键 id 必须是字符串" id.asStr
    return .uuid (← parseUuid lib "无效的外键 UUID: " s)
  | _, _ =>
    match value.asStr with
    | some s => do return .uuid (← parseUuid lib "无效的外键 UUID: " s)
    | none => .error (.validationError "外键字段格式无效")

def jsonToSqlParam (value : Json) (colType : ColumnType) : Except KongError SqlParam :=
  if value.isNull then .ok .null
  else
    match colType with
    | .uuid => do
      let s ← orInvalid "UUID 字段必须是字符串" value.asStr
      return .uuid (← parseUuid lib "无效的 UUID: " s)
    | .foreignKey => foreignKeyParam lib value
    | .text => do return .text (← orInvalid "文本字段必须是字符串" value.asStr)
    | .integer => do return .integer (← orInvalid "整数字段必须是数字" value.asI64)
    | .decimal => do
      return .decimal (← (lib.parseDecimal value).mapError fun e => .validationError e)
    | .boolean => do return .boolean (← orInvalid "布尔字段必须是 bool" value.asBool)
    | .timestamp => do return .timestampEpoch (← orInvalid "时间戳字段必须是数字" value.asI64)
    | .jsonb => .ok (.jsonb value)
    | .jsonbArray => do return .jsonbArray (← orInvalid "JSONB[] 字段必须是 JSON 数组" value.asArray)
    | .uuidArray => do
      let items ← orInvalid "UUID[] 字段必须是 JSON 数组" value.asArray
      return .uuidArray (← items.mapM fun item => do
        let s ← orInvalid "UUID 数组元素必须是字符串" item.asStr
        parseUuid lib "无效的 UUID: " s)
    | .textArray => do
      let items ← orInvalid "数组字段必须是 JSON 数组" value.asArray
      return .textArray (← items.mapM fun item => orInvalid "数组元素必须是字符串" item.asStr)

/-- The parameters of some columns, by their names in the database. -/
abbrev Params := List (String × SqlParam)

def entityToParams (entity : Json) (schema : EntitySchema) : Except KongError Params :=
  if entity.isObject then
    (schema.columns.filter ColumnDef.writable).mapM fun column => do
      return (column.dbColumn, ← jsonToSqlParam lib (entity.field column.jsonName) column.colType)
  else .error (.serializationError "实体不是 JSON 对象")

end Params

/-! ## Rows -/

/-- The integers of a table's columns; other types are those of the schemas. -/
inductive SqlType where
  | smallint
  | integer
  | bigint
  | other
  deriving DecidableEq

/-- A row, with `null` where it has no column. -/
abbrev Row := String → SqlParam

/-- The types of the integer columns in the migrations. -/
def sqlType : String → String → SqlType
  | "services", "retries" => .bigint
  | "services", "port" => .bigint
  | "services", "connect_timeout" => .bigint
  | "services", "write_timeout" => .bigint
  | "services", "read_timeout" => .bigint
  | "services", "tls_verify_depth" => .smallint
  | "routes", "https_redirect_status_code" => .integer
  | "routes", "regex_priority" => .bigint
  | "routes", "priority" => .bigint
  | "upstreams", "slots" => .bigint
  | "targets", "weight" => .integer
  | "ai_models", "priority" => .integer
  | "ai_models", "weight" => .integer
  | "ai_models", "max_tokens" => .integer
  | "ai_models", "max_input_tokens" => .integer
  | _, _ => .other

section Rows

variable (lib : Library)

/-- `extract_column_value`: an integer is read as an `INT8` or else as an `INT4`. -/
def extractColumnValue (table : String) (row : Row) (column : ColumnDef) : Except KongError Json :=
  match column.colType, row column.dbColumn with
  | _, .null => .ok .null
  | .uuid, .uuid id => .ok (.string id.text)
  | .text, .text s => .ok (.string s)
  | .integer, .integer n =>
    if sqlType table column.dbColumn = .bigint ∨ sqlType table column.dbColumn = .integer then
      .ok (.ofInt n)
    else .error (.databaseError ("列 " ++ column.dbColumn ++ " 读取失败: " ++ lib.decodeError))
  | .decimal, .decimal units => .ok (.string (lib.decimalText units))
  | .boolean, .boolean b => .ok (.bool b)
  | .timestamp, .timestampEpoch seconds => .ok (.ofInt seconds)
  | .jsonb, .jsonb value => .ok value
  | .textArray, .textArray items => .ok (.array (items.map .string))
  | .jsonbArray, .jsonbArray items => .ok (.array items)
  | .uuidArray, .uuidArray ids => .ok (.array (ids.map fun id => .string id.text))
  | .foreignKey, .uuid id => .ok (.object [("id", .string id.text)])
  | _, _ => .error (.databaseError ("列 " ++ column.dbColumn ++ " 读取失败: " ++ lib.decodeError))

/-- The object that `row_to_entity` builds. -/
def rowJson (schema : EntitySchema) (row : Row) : Except KongError Json := do
  let fields ← schema.columns.mapM fun column => do
    return (column.jsonName, ← extractColumnValue lib schema.tableName row column)
  return .ofFields fields

variable {lib} {schema : EntitySchema} {row : Row} {given : Json}

theorem isObject_rowJson (h : rowJson lib schema row = .ok given) : given.isObject := by
  obtain ⟨fields, -, h⟩ := bind_eq_ok.mp h
  cases h
  rfl

theorem rowJson_get (hNamed : schema.Named) (h : rowJson lib schema row = .ok given)
    {column : ColumnDef} (hMem : column ∈ schema.columns) :
    ∃ value, extractColumnValue lib schema.tableName row column = .ok value ∧
      given.get column.jsonName = some value := by
  obtain ⟨fields, hFields, h⟩ := bind_eq_ok.mp h
  cases h
  have hNames : fields.map Prod.fst = schema.columns.map ColumnDef.jsonName := by
    refine map_mapM hFields fun column field hField => ?_
    obtain ⟨value, -, hPair⟩ := bind_eq_ok.mp hField
    cases hPair
    rfl
  have hNodup : (fields.map Prod.fst).Nodup := by
    rw [hNames]
    exact hNamed.jsonNames
  obtain ⟨field, hIn, hField⟩ := mapM_mem hFields hMem
  obtain ⟨value, hValue, hPair⟩ := bind_eq_ok.mp hField
  cases hPair
  refine ⟨value, hValue, ?_⟩
  rw [Json.get_ofFields hNodup]
  cases hFind : fields.find? fun field => field.1 == column.jsonName with
  | none =>
    have hNone := List.find?_eq_none.mp hFind _ hIn
    simp at hNone
  | some field =>
    have hName := beq_iff_eq.mp (List.find?_some hFind :)
    rw [List.inj_on_of_nodup_map hNodup (List.mem_of_find?_eq_some hFind) hIn hName]
    rfl

end Rows

end KongRust.Postgres
