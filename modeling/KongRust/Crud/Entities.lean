import KongRust.Postgres.Dao

/-!
# The entities of the Admin API

The structs that implement `Entity`, with the defaults of their fields.
-/

namespace KongRust.Crud

open Postgres (Entity Library)
open Serde (Codec Field Struct)

/-! ## The types of fields -/

def protocol : Codec :=
  Serde.oneOf
    ["http", "https", "tcp", "tls", "udp", "grpc", "grpcs", "tls_passthrough", "ws", "wss"]

def lbAlgorithm : Codec :=
  Serde.oneOf ["round-robin", "consistent-hashing", "least-connections", "latency"]

def hashOn : Codec :=
  Serde.oneOf
    ["none", "consumer", "ip", "header", "cookie", "path", "query_arg", "uri_capture"]

def pathHandling : Codec := Serde.oneOf ["v0", "v1"]

def texts : Codec := Serde.vec Serde.text

/-- `HashMap<String, Vec<String>>`. -/
def textLists : Codec := Serde.map texts

def cidrPort : Codec :=
  Serde.Struct.codec
    [{ Field.plain "ip" Serde.text with skipNone := true },
      { Field.plain "port" Serde.u16 with skipNone := true }]

def pluginOrdering : Codec :=
  Serde.Struct.codec
    [{ Field.plain "before" textLists with skipNone := true },
      { Field.plain "after" textLists with skipNone := true }]

def integers (ns : List Int) : Json := .array (ns.map .ofInt)

def float (n : Nat) : Json := .number (.float (Float.ofNat n).toBits)

def healthyConfig : Struct :=
  [.default "interval" Serde.f64 (float 0), .default "http_statuses" (Serde.vec Serde.i32) (.array []),
    .default "successes" Serde.i32 (.ofInt 0)]

def unhealthyConfig : Struct :=
  [.default "interval" Serde.f64 (float 0), .default "http_statuses" (Serde.vec Serde.i32) (.array []),
    .default "tcp_failures" Serde.i32 (.ofInt 0), .default "timeouts" Serde.i32 (.ofInt 0),
    .default "http_failures" Serde.i32 (.ofInt 0)]

variable (httpStatuses : List Int)

/-- `HealthyConfig` without probes. -/
def healthyJson (httpStatuses : List Int) : Json :=
  .ofFields [("interval", float 0), ("http_statuses", integers httpStatuses),
    ("successes", .ofInt 0)]

def unhealthyJson (httpStatuses : List Int) : Json :=
  .ofFields [("interval", float 0), ("http_statuses", integers httpStatuses),
    ("tcp_failures", .ofInt 0), ("timeouts", .ofInt 0), ("http_failures", .ofInt 0)]

variable (healthy unhealthy : Json)

/-- An `ActiveHealthcheck` with the default type, timeout and path. -/
def activeJson (healthy unhealthy : Json) : Json :=
  .ofFields [("type", .string "http"), ("timeout", float 1), ("concurrency", .ofInt 10),
    ("http_path", .string "/"), ("https_sni", .null), ("https_verify_certificate", .bool true),
    ("headers", .null), ("healthy", healthy), ("unhealthy", unhealthy)]

def passiveJson (healthy unhealthy : Json) : Json :=
  .ofFields [("type", .string "http"), ("healthy", healthy), ("unhealthy", unhealthy)]

def activeHealthcheck : Struct :=
  [.default "type" Serde.text (.string "http"), .default "timeout" Serde.f64 (float 1),
    .default "concurrency" Serde.i32 (.ofInt 10), .default "http_path" Serde.text (.string "/"),
    .plain "https_sni" Serde.text, .default "https_verify_certificate" Serde.bool (.bool true),
    .plain "headers" textLists, .default "healthy" healthyConfig.codec (healthyJson []),
    .default "unhealthy" unhealthyConfig.codec (unhealthyJson [])]

def passiveHealthcheck : Struct :=
  [.default "type" Serde.text (.string "http"),
    .default "healthy" healthyConfig.codec (healthyJson []),
    .default "unhealthy" unhealthyConfig.codec (unhealthyJson [])]

def healthcheckConfig : Struct :=
  [.default "active" activeHealthcheck.codec (activeJson (healthyJson []) (unhealthyJson [])),
    .default "passive" passiveHealthcheck.codec (passiveJson (healthyJson []) (unhealthyJson [])),
    .default "threshold" Serde.f64 (float 0)]

/-- `HealthcheckConfig::default()`. -/
def healthcheckJson : Json :=
  .ofFields
    [("active", activeJson (healthyJson [200, 302])
        (unhealthyJson [429, 404, 500, 501, 502, 503, 504, 505])),
      ("passive", passiveJson
        (healthyJson [200, 201, 202, 203, 204, 205, 206, 207, 208, 226, 300, 301, 302, 303, 304,
          305, 306, 307, 308])
        (unhealthyJson [429, 500, 503])),
      ("threshold", float 0)]

/-! ## The structs -/

section Entities

variable (lib : Library)

def uuid : Codec := Serde.uuid fun s => (lib.parseStr s).toOption

def foreignKey : Codec := Serde.foreignKey fun s => (lib.parseStr s).toOption

def idField (drawn : Uuid) : Field := .default "id" (uuid lib) (.string drawn.text)

def timeField (name : String) : Field := .default name Serde.i64 (.ofInt 0)

def textField (name : String) : Field := .default name Serde.text (.string "")

def tagsField : Field := .opt "tags" texts

def wsIdField : Field := .skip "ws_id" (uuid lib)

def modelCost : Codec := fun given =>
  (lib.modelCost given).map fun units => .string (lib.decimalText units)

/-- A foreign key to no row, which is the default of one that is required. -/
def nilKey : Json := .object [("id", .string (0 : Uuid).text)]

def service : Entity where
  schema := Postgres.serviceSchema
  endpointKey := some "name"
  struct drawn :=
    [idField lib drawn, timeField "created_at", timeField "updated_at", .opt "name" Serde.text,
      .default "retries" Serde.i32 (.ofInt 5), .default "protocol" protocol (.string "http"),
      textField "host", .default "port" Serde.u16 (.ofInt 80), .opt "path" Serde.text,
      .default "connect_timeout" Serde.i32 (.ofInt 60000),
      .default "write_timeout" Serde.i32 (.ofInt 60000),
      .default "read_timeout" Serde.i32 (.ofInt 60000), tagsField,
      .opt "client_certificate" (foreignKey lib), .opt "tls_verify" Serde.bool,
      .opt "tls_verify_depth" Serde.i32, .opt "ca_certificates" (Serde.vec (uuid lib)),
      .default "enabled" Serde.bool (.bool true), wsIdField lib]

def route : Entity where
  schema := Postgres.routeSchema
  endpointKey := some "name"
  struct drawn :=
    [idField lib drawn, timeField "created_at", timeField "updated_at", .opt "name" Serde.text,
      .default "protocols" (Serde.vec protocol) (.array [.string "http", .string "https"]),
      .default "https_redirect_status_code" Serde.u16 (.ofInt 426),
      .default "strip_path" Serde.bool (.bool true),
      .default "preserve_host" Serde.bool (.bool false),
      .default "request_buffering" Serde.bool (.bool true),
      .default "response_buffering" Serde.bool (.bool true), tagsField,
      .opt "service" (foreignKey lib), .opt "snis" texts, .opt "sources" (Serde.vec cidrPort),
      .opt "destinations" (Serde.vec cidrPort), .opt "methods" texts, .opt "hosts" texts,
      .opt "paths" texts, .opt "headers" textLists, .default "regex_priority" Serde.i32 (.ofInt 0),
      .default "path_handling" pathHandling (.string "v0"), .opt "expression" Serde.text,
      .opt "priority" Serde.i32, wsIdField lib]

def consumer : Entity where
  schema := Postgres.consumerSchema
  endpointKey := some "username"
  struct drawn :=
    [idField lib drawn, timeField "created_at", timeField "updated_at", .opt "username" Serde.text,
      .opt "custom_id" Serde.text, tagsField, wsIdField lib]

def upstream : Entity where
  schema := Postgres.upstreamSchema
  endpointKey := some "name"
  struct drawn :=
    [idField lib drawn, timeField "created_at", timeField "updated_at", textField "name",
      .default "algorithm" lbAlgorithm (.string "round-robin"),
      .default "hash_on" hashOn (.string "none"), .default "hash_fallback" hashOn (.string "none"),
      .opt "hash_on_header" Serde.text, .opt "hash_fallback_header" Serde.text,
      .opt "hash_on_cookie" Serde.text, .opt "hash_on_cookie_path" Serde.text,
      .opt "hash_on_query_arg" Serde.text, .opt "hash_fallback_query_arg" Serde.text,
      .opt "hash_on_uri_capture" Serde.text, .opt "hash_fallback_uri_capture" Serde.text,
      .default "slots" Serde.i32 (.ofInt 10000),
      .default "healthchecks" healthcheckConfig.codec healthcheckJson, tagsField,
      .opt "host_header" Serde.text, .opt "client_certificate" (foreignKey lib),
      .default "use_srv_name" Serde.bool (.bool false), wsIdField lib]

def target : Entity where
  schema := Postgres.targetSchema
  endpointKey := some "target"
  struct drawn :=
    [idField lib drawn, timeField "created_at", timeField "updated_at",
      .default "upstream" (foreignKey lib) nilKey, textField "target",
      .default "weight" Serde.i32 (.ofInt 100), .skip "cache_key" Serde.text, .skip "tags" texts,
      wsIdField lib]

def plugin : Entity where
  schema := Postgres.pluginSchema
  endpointKey := some "instance_name"
  struct drawn :=
    [idField lib drawn, textField "name", .opt "instance_name" Serde.text, timeField "created_at",
      timeField "updated_at", .opt "route" (foreignKey lib), .opt "service" (foreignKey lib),
      .opt "consumer" (foreignKey lib), .default "config" Serde.value (.object []),
      .opt "protocols" (Serde.vec protocol), .skip "cache_key" Serde.text,
      .default "enabled" Serde.bool (.bool true), tagsField, .opt "ordering" pluginOrdering,
      wsIdField lib]

def certificate : Entity where
  schema := Postgres.certificateSchema
  endpointKey := none
  struct drawn :=
    [idField lib drawn, timeField "created_at", timeField "updated_at", textField "cert",
      textField "key", .opt "cert_alt" Serde.text, .opt "key_alt" Serde.text, tagsField,
      wsIdField lib]

def sni : Entity where
  schema := Postgres.sniSchema
  endpointKey := some "name"
  struct drawn :=
    [idField lib drawn, textField "name", timeField "created_at", timeField "updated_at",
      tagsField, .default "certificate" (foreignKey lib) nilKey, wsIdField lib]

def caCertificate : Entity where
  schema := Postgres.caCertificateSchema
  endpointKey := none
  struct drawn :=
    [idField lib drawn, timeField "created_at", timeField "updated_at", textField "cert",
      .opt "cert_digest" Serde.text, tagsField, wsIdField lib]

def vault : Entity where
  schema := Postgres.vaultSchema
  endpointKey := some "prefix"
  struct drawn :=
    [idField lib drawn, textField "prefix", textField "name", .opt "description" Serde.text,
      .opt "config" Serde.value, timeField "created_at", timeField "updated_at", tagsField,
      wsIdField lib]

def keySet : Entity where
  schema := Postgres.keySetSchema
  endpointKey := some "name"
  struct drawn :=
    [idField lib drawn, .opt "name" Serde.text, timeField "created_at", timeField "updated_at",
      tagsField, wsIdField lib]

def key : Entity where
  schema := Postgres.keySchema
  endpointKey := some "name"
  struct drawn :=
    [idField lib drawn, .skip "set" (foreignKey lib), .opt "name" Serde.text, textField "kid",
      .opt "jwk" Serde.text, .opt "pem" Serde.value, .skip "cache_key" Serde.text,
      timeField "created_at", timeField "updated_at", tagsField, wsIdField lib]

/-- The AI entities are not given an identifier by `Default`. -/
def aiProvider : Entity where
  schema := Postgres.aiProviderSchema
  endpointKey := some "name"
  struct _ :=
    [idField lib 0, textField "name", textField "provider_type", .skip "endpoint_url" Serde.text,
      .default "auth_config" Serde.value .null, .skip "default_model" Serde.text,
      .default "config" Serde.value .null, .default "enabled" Serde.bool (.bool false),
      wsIdField lib, .skip "created_at" Serde.i64, .skip "updated_at" Serde.i64, .skip "tags" texts]

def aiModel : Entity where
  schema := Postgres.aiModelSchema
  endpointKey := none
  struct _ :=
    [idField lib 0, textField "name", .default "provider_id" (uuid lib) (.string (0 : Uuid).text),
      textField "model_name", .default "priority" Serde.i32 (.ofInt 0),
      .default "weight" Serde.i32 (.ofInt 0), .skip "input_cost" (modelCost lib),
      .skip "output_cost" (modelCost lib), .skip "max_tokens" Serde.i32,
      .skip "max_input_tokens" Serde.i32, .default "config" Serde.value .null,
      .default "enabled" Serde.bool (.bool false), wsIdField lib, .skip "created_at" Serde.i64,
      .skip "updated_at" Serde.i64, .skip "tags" texts]

def entities : List Entity :=
  [service lib, route lib, consumer lib, upstream lib, target lib, plugin lib, certificate lib,
    sni lib, caCertificate lib, vault lib, keySet lib, key lib, aiProvider lib, aiModel lib]

variable {T : Entity} {drawn : Uuid} {entity : Json}

section

variable (h : T ∈ entities lib)
include h

theorem struct_nodup (drawn : Uuid) :
    ((T.struct drawn).map Field.name).Nodup := by
  simp only [entities, List.mem_cons, List.not_mem_nil, or_false] at h
  rcases h with rfl | rfl | rfl | rfl | rfl | rfl | rfl | rfl | rfl | rfl | rfl | rfl | rfl | rfl
  all_goals
    simp [service, route, consumer, upstream, target, plugin, certificate, sni, caCertificate, vault,
      keySet, key, aiProvider, aiModel, idField, timeField, textField, tagsField, wsIdField,
      Field.default, Field.opt, Field.skip]

theorem schema_mem : T.schema ∈ Postgres.schemas := by
  simp only [entities, List.mem_cons, List.not_mem_nil, or_false] at h
  rcases h with rfl | rfl | rfl | rfl | rfl | rfl | rfl | rfl | rfl | rfl | rfl | rfl | rfl | rfl <;>
    simp [Postgres.schemas, service, route, consumer, upstream, target, plugin, certificate, sni,
      caCertificate, vault, keySet, key, aiProvider, aiModel]

theorem schema_named : T.schema.Named :=
  Postgres.named_of_mem_schemas (schema_mem lib h)

theorem idField_mem : idField lib 0 ∈ T.struct 0 := by
  simp only [entities, List.mem_cons, List.not_mem_nil, or_false] at h
  rcases h with rfl | rfl | rfl | rfl | rfl | rfl | rfl | rfl | rfl | rfl | rfl | rfl | rfl | rfl <;>
    exact List.mem_cons_self

end

theorem idOf_holds {value : Json} (h : (idField lib drawn).Holds value) :
    ∃ id : Uuid, value = .string id.text := by
  rcases h with ⟨given, hGiven⟩ | hMissing | hAbsent
  · cases given with
    | string s =>
      obtain ⟨id, -, rfl⟩ := Option.map_eq_some_iff.mp hGiven
      exact ⟨id, rfl⟩
    | _ => cases hGiven
  · cases hMissing
    exact ⟨drawn, rfl⟩
  · cases hAbsent
    exact ⟨drawn, rfl⟩

theorem id_of_fromValue (hT : T ∈ entities lib) {given : Json}
    (h : T.fromValue drawn given = some entity) :
    ∃ id : Uuid, entity.get "id" = some (.string id.text) := by
  have hField : ∃ drawn', idField lib drawn' ∈ T.struct drawn := by
    simp only [entities, List.mem_cons, List.not_mem_nil, or_false] at hT
    rcases hT with rfl | rfl | rfl | rfl | rfl | rfl | rfl | rfl | rfl | rfl | rfl | rfl | rfl | rfl
    all_goals exact ⟨_, List.mem_cons_self⟩
  obtain ⟨drawn', hMem⟩ := hField
  have hHolds := Serde.Struct.codec_holds (struct_nodup lib hT drawn) h hMem
  obtain ⟨id, hId⟩ := idOf_holds lib hHolds
  exact ⟨id, Json.get_of_field hId (by simp)⟩

variable {lib} {row : Postgres.Row}

theorem row_id {T : Entity} (hT : T ∈ entities lib) {entity : Json}
    (h : Postgres.PgDao.rowToEntity lib T row = .ok entity) : ∃ id, row "id" = .uuid id := by
  have hNamed := schema_named lib hT
  have hColumn : Postgres.idColumn ∈ T.schema.columns := List.mem_of_mem_head? hNamed.key
  obtain ⟨value, hValue, hField⟩ := Postgres.PgDao.rowToEntity_field hNamed
    (struct_nodup lib hT 0) h hColumn (idField_mem lib hT) rfl
  unfold Postgres.extractColumnValue Postgres.idColumn at hValue
  dsimp only at hValue
  cases hId : row "id" with
  | uuid id => exact ⟨id, rfl⟩
  | null =>
    rw [hId] at hValue
    cases hValue
    cases hField
  | _ =>
    rw [hId] at hValue
    cases hValue

variable (hLib : lib.ReadsIds)

include hLib

theorem uuid_text (id : Uuid) : uuid lib (.string id.text) = some (.string id.text) := by
  change ((lib.parseStr id.text).toOption.map fun id => Json.string id.text) = _
  rw [hLib id]
  rfl

theorem foreignKey_text (id : Uuid) : foreignKey lib (.object [("id", .string id.text)]) =
    some (.object [("id", .string id.text)]) := by
  have hRead : Serde.readObject (.object [("id", .string id.text)])
      [Field.required "id" (uuid lib)] =
      some [(Field.required "id" (uuid lib), .string id.text)] := by
    unfold Serde.readObject
    rw [List.mapM_cons]
    change ((uuid lib (.string id.text)).map _ >>= _) = _
    rw [uuid_text hLib]
    rfl
  change (Serde.readObject (.object [("id", .string id.text)])
    [Field.required "id" (uuid lib)]).map Serde.write = _
  rw [hRead]
  rfl

theorem id_of_row (hT : T ∈ entities lib) (h : Postgres.PgDao.rowToEntity lib T row = .ok entity)
    {id : Uuid} (hId : row "id" = .uuid id) : entity.get "id" = some (.string id.text) := by
  have hNamed := schema_named lib hT
  have hColumn : Postgres.idColumn ∈ T.schema.columns := List.mem_of_mem_head? hNamed.key
  obtain ⟨value, hValue, hField⟩ := Postgres.PgDao.rowToEntity_field hNamed
    (struct_nodup lib hT 0) h hColumn (idField_mem lib hT) rfl
  unfold Postgres.extractColumnValue Postgres.idColumn at hValue
  dsimp only at hValue
  rw [hId] at hValue
  cases hValue
  have hText : uuid lib (.string id.text) = some (entity.field "id") := hField
  rw [uuid_text hLib] at hText
  exact Json.get_of_field (Option.some.inj hText).symm (by simp)

end Entities

end KongRust.Crud
