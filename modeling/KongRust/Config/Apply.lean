import Mathlib.Data.List.AList
import KongRust.Config.Values
import KongRust.Foundation.Fallible

/-!
# Applying the raw entries

`apply_raw` sets the entries of a map one by one, in the order in which the map gives them. An entry
sets the field of its name, so two entries do not interfere, with one exception: `headers = off`
also empties `headers_upstream`. `applyRaw_order_iff` says that the order shows in the
configuration exactly when that entry meets one that fills `headers_upstream`.

The tests of characters and the reading of `f64` are parameters.
-/

namespace KongRust.Config

open Str

/-- The operations of the standard library. A float is given by its bits. -/
structure Libraries where
  toLowercase : List Char → List Char
  isAlphabetic : Char → Bool
  parseF64 : List Char → Option Nat

inductive ClusterRole
  | traditional
  | controlPlane
  | dataPlane
  deriving DecidableEq

/-- The value of a field. -/
inductive Value
  | text (s : String)
  | optText (s : Option String)
  | bool (b : Bool)
  | optBool (b : Option Bool)
  | int (n : Int)
  | optInt (n : Option Int)
  | float (bits : Nat)
  | list (items : List String)
  | listeners (listen : List ListenAddr)
  | role (role : ClusterRole)
  deriving DecidableEq

inductive IntType
  | u16
  | u32
  | u64
  | usize
  | i64
  deriving DecidableEq

/-- How the value of an entry is read. -/
inductive Rule
  | text
  | noneIfEmpty
  | bool
  | someBool
  | array
  | headerList
  | listen
  | parseOr (type : IntType) (fallback : Int)
  | parseOk (type : IntType)
  | floatOr (bits : Nat)
  | asciiLowercase
  | seconds
  | realIpHeaders
  | role
  deriving DecidableEq

/-- The configuration, with the fields by their names. -/
structure KongConfig where
  fields : String → Value
  nginxDirectives : String → Option String
  raw : String → Option String

/-! ## The code -/

def parseBool (libs : Libraries) (value : List Char) : Bool :=
  ["on".toList, "true".toList, "yes".toList, "1".toList].contains
    (libs.toLowercase (Text.trim value))

/-- The trimmed pieces of a list that the test keeps. -/
def parsePieces (keep : List Char → Bool) (value : List Char) : List String :=
  let trimmed := Text.trim value
  if trimmed.isEmpty ∨ trimmed = "off".toList then []
  else (((Text.split ',' trimmed).map Text.trim).filter keep).map String.ofList

def parseArray (value : List Char) : List String := parsePieces (fun s => !s.isEmpty) value

def parseHeaderList (value : List Char) : List String := parsePieces (fun s => s.contains ':') value

def noneIfEmpty (value : List Char) : Option String :=
  let v := Text.trim value
  if v.isEmpty then none else some (String.ofList v)

def parseRealIpHeaders (libs : Libraries) (value : List Char) : List String :=
  let v := libs.toLowercase (Text.trim value)
  if v ∈ ["on".toList, "true".toList, "yes".toList, "1".toList] then
    ["X-Real-IP", "X-Forwarded-For", "X-Forwarded-Proto", "X-Forwarded-Host", "X-Forwarded-Port",
      "X-Forwarded-Path", "X-Forwarded-Prefix"]
  else if v ∈ ["off".toList, "false".toList, "no".toList, "0".toList, []] then []
  else parseArray value

/-- `ClusterRole::from_str`. -/
def ClusterRole.fromStr (s : List Char) : Option ClusterRole :=
  if s = "traditional".toList then some .traditional
  else if s = "control_plane".toList then some .controlPlane
  else if s = "data_plane".toList then some .dataPlane
  else none

/-- `str::parse` at an integer type. -/
def IntType.parse (s : List Char) : IntType → Option Int
  | .u16 => (parseUnsigned (2 ^ 16) s).toOption.map Int.ofNat
  | .u32 => (parseUnsigned (2 ^ 32) s).toOption.map Int.ofNat
  | .u64 => (parseUnsigned (2 ^ 64) s).toOption.map Int.ofNat
  | .usize => (parseUnsigned (2 ^ 64) s).toOption.map Int.ofNat
  | .i64 => (parseSigned (2 ^ 63) s).toOption

/-- `parse_listen_addresses(value).unwrap_or_default()`. -/
def parseListenOrDefault (value : List Char) : Except Fault (List ListenAddr) :=
  match parseListenAddresses value with
  | .error (.error _) => .ok []
  | result => result

/-- The value that the field takes; a role that is not known leaves it as it was. -/
def Rule.read (libs : Libraries) (value : List Char) : Rule → Except Fault (Option Value)
  | .text => .ok (some (.text (String.ofList value)))
  | .noneIfEmpty => .ok (some (.optText (Config.noneIfEmpty value)))
  | .bool => .ok (some (.bool (parseBool libs value)))
  | .someBool => .ok (some (.optBool (some (parseBool libs value))))
  | .array => .ok (some (.list (parseArray value)))
  | .headerList => .ok (some (.list (parseHeaderList value)))
  | .listen => (parseListenOrDefault value).map fun listen => some (.listeners listen)
  | .parseOr type fallback => .ok (some (.int ((type.parse value).getD fallback)))
  | .parseOk type => .ok (some (.optInt (type.parse value)))
  | .floatOr bits => .ok (some (.float ((libs.parseF64 value).getD bits)))
  | .asciiLowercase => .ok (some (.text (String.ofList (value.map Char.toLower))))
  | .seconds =>
    .ok (some (.int ((IntType.u64.parse (value.rdropWhile libs.isAlphabetic)).getD 10)))
  | .realIpHeaders => .ok (some (.list (parseRealIpHeaders libs value)))
  | .role => .ok ((ClusterRole.fromStr value).map .role)

/-- The arms of `set` that write the field of the entry's name. The float is `0.01`. -/
def rules : List (String × Rule) :=
  [("prefix", .text), ("log_level", .text), ("node_id", .noneIfEmpty),
   ("anonymous_reports", .bool),
   ("proxy_listen", .listen), ("admin_listen", .listen), ("status_listen", .listen),
   ("stream_listen", .listen), ("admin_gui_listen", .listen), ("admin_gui_url", .text),
   ("proxy_access_log", .text), ("proxy_error_log", .text), ("admin_access_log", .text),
   ("admin_error_log", .text), ("status_access_log", .text), ("status_error_log", .text),
   ("proxy_stream_access_log", .text), ("proxy_stream_error_log", .text),
   ("database", .text), ("pg_host", .text), ("pg_port", .parseOr .u16 5432),
   ("pg_database", .text), ("pg_user", .text), ("pg_password", .noneIfEmpty),
   ("pg_schema", .noneIfEmpty), ("pg_timeout", .parseOr .u64 5000), ("pg_ssl", .bool),
   ("pg_ssl_verify", .bool), ("pg_max_concurrent_queries", .parseOr .u32 0),
   ("pg_semaphore_timeout", .parseOr .u64 60000), ("pg_keepalive_timeout", .parseOk .u64),
   ("pg_pool_size", .parseOk .u32), ("pg_backlog", .parseOk .u32),
   ("pg_ro_host", .noneIfEmpty), ("pg_ro_port", .parseOk .u16), ("pg_ro_database", .noneIfEmpty),
   ("pg_ro_user", .noneIfEmpty), ("pg_ro_password", .noneIfEmpty), ("pg_ro_schema", .noneIfEmpty),
   ("pg_ro_timeout", .parseOk .u64), ("pg_ro_ssl", .someBool), ("pg_ro_ssl_verify", .someBool),
   ("pg_ro_max_concurrent_queries", .parseOk .u32), ("pg_ro_semaphore_timeout", .parseOk .u64),
   ("pg_ro_keepalive_timeout", .parseOk .u64), ("pg_ro_pool_size", .parseOk .u32),
   ("pg_ro_backlog", .parseOk .u32),
   ("declarative_config", .noneIfEmpty), ("declarative_config_string", .noneIfEmpty),
   ("role", .role),
   ("mem_cache_size", .text), ("db_cache_ttl", .parseOr .u64 0),
   ("db_cache_neg_ttl", .parseOk .u64), ("db_resurrect_ttl", .parseOr .u64 30),
   ("db_cache_warmup_entities", .array), ("db_update_frequency", .parseOr .u64 5),
   ("db_update_propagation", .parseOr .u64 0), ("nginx_main_worker_shutdown_timeout", .seconds),
   ("dns_resolver", .array), ("dns_hostsfile", .text), ("dns_order", .array),
   ("dns_valid_ttl", .parseOk .u64), ("dns_stale_ttl", .parseOr .u64 3600),
   ("dns_cache_size", .parseOr .u32 10000), ("dns_not_found_ttl", .parseOr .u64 30),
   ("dns_error_ttl", .parseOr .u64 1), ("dns_no_sync", .bool),
   ("ssl_cipher_suite", .text), ("ssl_ciphers", .noneIfEmpty), ("ssl_protocols", .text),
   ("ssl_prefer_server_ciphers", .bool), ("ssl_dhparam", .noneIfEmpty),
   ("ssl_session_tickets", .bool), ("ssl_session_timeout", .text),
   ("ssl_session_cache_size", .text), ("ssl_cert", .array), ("ssl_cert_key", .array),
   ("admin_ssl_cert", .array), ("admin_ssl_cert_key", .array), ("status_ssl_cert", .array),
   ("status_ssl_cert_key", .array), ("client_ssl", .bool), ("client_ssl_cert", .noneIfEmpty),
   ("client_ssl_cert_key", .noneIfEmpty), ("lua_ssl_trusted_certificate", .array),
   ("lua_ssl_verify_depth", .parseOr .u32 1), ("lua_ssl_protocols", .text),
   ("headers_upstream", .array), ("trusted_ips", .array), ("real_ip_header", .text),
   ("real_ip_recursive", .bool), ("upstream_keepalive_pool_size", .parseOr .u32 512),
   ("upstream_keepalive_max_requests", .parseOr .u32 10000),
   ("upstream_keepalive_idle_timeout", .parseOr .u64 60),
   ("router_flavor", .text), ("worker_consistency", .text),
   ("worker_state_update_frequency", .parseOr .u64 5),
   ("plugins", .array), ("vaults", .array), ("lua_socket_pool_size", .parseOr .u32 256),
   ("lua_package_path", .text), ("lua_package_cpath", .noneIfEmpty),
   ("lua_max_req_headers", .parseOr .u32 100), ("lua_max_resp_headers", .parseOr .u32 100),
   ("lua_max_uri_args", .parseOr .u32 100), ("lua_max_post_args", .parseOr .u32 100),
   ("nginx_user", .text), ("nginx_worker_processes", .text), ("nginx_daemon", .bool),
   ("error_default_type", .text),
   ("port_maps", .array),
   ("cluster_control_plane", .text), ("cluster_listen", .listen), ("cluster_mtls", .text),
   ("cluster_cert", .noneIfEmpty), ("cluster_cert_key", .noneIfEmpty),
   ("cluster_ca_cert", .noneIfEmpty), ("cluster_server_name", .noneIfEmpty),
   ("cluster_data_plane_purge_delay", .parseOr .u64 1209600),
   ("tracing_instrumentations", .array), ("tracing_sampling_rate", .floatOr 0x3F847AE147AE147B),
   ("proxy_real_ip_headers", .realIpHeaders), ("proxy_hide_server_header", .bool),
   ("proxy_response_headers", .headerList),
   ("ai_tokenizer_enabled", .bool), ("ai_tokenizer_per_request_deadline_ms", .parseOr .u64 300),
   ("ai_tokenizer_remote_count_timeout_ms", .parseOr .u64 1000),
   ("ai_tokenizer_cache_capacity", .parseOr .u64 1024),
   ("ai_tokenizer_cache_ttl_seconds", .parseOr .u64 60), ("ai_tokenizer_offline", .bool),
   ("ai_tokenizer_cache_dir", .noneIfEmpty), ("ai_tokenizer_openai_endpoint", .noneIfEmpty),
   ("ai_tokenizer_openai_api_key", .noneIfEmpty),
   ("ai_tokenizer_anthropic_endpoint", .noneIfEmpty),
   ("ai_tokenizer_anthropic_api_key", .noneIfEmpty),
   ("ai_tokenizer_gemini_endpoint", .noneIfEmpty), ("ai_tokenizer_gemini_api_key", .noneIfEmpty),
   ("ai_context_compression_headroom_url", .noneIfEmpty),
   ("ai_context_compression_health_timeout_ms", .parseOr .u64 200),
   ("ai_context_compression_health_ttl_ms", .parseOr .u64 1000),
   ("ai_context_compression_store_scope", .asciiLowercase),
   ("ai_usage_queue_capacity", .parseOr .usize 0), ("ai_usage_batch_size", .parseOr .usize 0),
   ("ai_usage_flush_interval_ms", .parseOr .u64 0),
   ("ai_usage_shutdown_timeout_ms", .parseOr .u64 0),
   ("ai_usage_dbless_capacity", .parseOr .usize 0),
   ("ai_enforcement_namespace", .text), ("ai_quota_memory_max_buckets", .parseOr .usize 100000),
   ("ai_quota_memory_max_records", .parseOr .usize 2000000),
   ("ai_quota_memory_max_records_per_bucket", .parseOr .usize 100000),
   ("ai_quota_memory_max_live_reservations", .parseOr .usize 200000),
   ("ai_quota_memory_recovery_headroom", .parseOr .usize 50000),
   ("ai_quota_max_request_lifetime_ms", .parseOr .u64 900000),
   ("ai_quota_settlement_retry_grace_ms", .parseOr .u64 300000),
   ("ai_quota_cleanup_interval_ms", .parseOr .u64 30000),
   ("ai_quota_cleanup_scan_batch", .parseOr .usize 4096),
   ("ai_lifecycle_dispatch_timeout_ms", .parseOr .u64 2000),
   ("ai_lifecycle_abort_timeout_ms", .parseOr .u64 2000),
   ("ai_lifecycle_finalizer_timeout_ms", .parseOr .u64 5000),
   ("ai_budget_pg_pool_size", .parseOr .u32 10),
   ("ai_budget_heartbeat_pg_pool_size", .parseOr .u32 1),
   ("ai_budget_admin_pg_pool_size", .parseOr .u32 2),
   ("ai_budget_max_concurrent_ops", .parseOr .u32 8),
   ("ai_budget_recovery_reserved_ops", .parseOr .u32 2),
   ("ai_budget_recovery_scan_batch", .parseOr .u32 100),
   ("ai_budget_operation_timeout_ms", .parseOr .u64 2000),
   ("ai_budget_lock_timeout_ms", .parseOr .u64 500),
   ("ai_budget_owner_lease_seconds", .parseOr .u64 30),
   ("ai_budget_owner_heartbeat_ms", .parseOr .u64 5000),
   ("ai_budget_intent_stale_grace_seconds", .parseOr .u64 60),
   ("ai_budget_active_intent_capacity", .parseOr .usize 50000),
   ("ai_budget_checkpoint_interval_seconds", .parseOr .u64 60),
   ("ai_budget_checkpoint_soft_tail_events", .parseOr .i64 10000),
   ("ai_budget_checkpoint_hard_tail_events", .parseOr .i64 100000)]

/-- An assignment to a field. -/
def KongConfig.put (config : KongConfig) (field : String) (value : Value) : KongConfig :=
  { config with fields := Function.update config.fields field value }

def KongConfig.set (libs : Libraries) (config : KongConfig) (key value : String) :
    Except Fault KongConfig :=
  let value := Text.trim value.toList
  if key = "headers" then
    let config := config.put "headers" (.list (parseArray value))
    if Text.trim value = "off".toList then .ok (config.put "headers_upstream" (.list []))
    else .ok config
  else match rules.lookup key with
    | some rule => do
      match ← rule.read libs value with
      | some read => return config.put key read
      | none => return config
    | none =>
      if Text.startsWith key "nginx_" then
        .ok { config with
          nginxDirectives :=
            Function.update config.nginxDirectives key (some (String.ofList value)) }
      else .ok config

/-- The entries of a map come in the order of the list. -/
def KongConfig.applyRaw (libs : Libraries) (config : KongConfig)
    (raw : AList fun _ : String => String) : Except Fault KongConfig := do
  let config ← raw.entries.foldlM (fun config entry => config.set libs entry.1 entry.2) config
  return { config with raw := fun key => (raw.lookup key).or (config.raw key) }

/-! ## What an entry changes -/

/-- The fields and the directives that an entry writes. -/
structure Change where
  written : String → Option Value
  directed : String → Option String

def KongConfig.change (config : KongConfig) (change : Change) : KongConfig :=
  { config with
    fields := fun field => (change.written field).getD (config.fields field)
    nginxDirectives := fun key => (change.directed key).or (config.nginxDirectives key) }

theorem change_fields (config : KongConfig) (change : Change) (field : String) :
    (config.change change).fields field = (change.written field).getD (config.fields field) := rfl

/-- The change that an entry makes. -/
def changeOf (libs : Libraries) (key value : String) : Except Fault Change :=
  let value := Text.trim value.toList
  if key = "headers" then
    .ok
      { written := fun field =>
          if field = "headers_upstream" ∧ Text.trim value = "off".toList then some (.list [])
          else if field = "headers" then some (.list (parseArray value)) else none
        directed := fun _ => none }
  else match rules.lookup key with
    | some rule => (rule.read libs value).map fun read =>
        { written := fun field => if field = key then read else none
          directed := fun _ => none }
    | none => .ok
        { written := fun _ => none
          directed := fun directive =>
            if directive = key ∧ Text.startsWith key "nginx_" = true then
              some (String.ofList value)
            else none }

/-- An entry changes every configuration in the same way. -/
theorem set_eq (libs : Libraries) (config : KongConfig) (key value : String) :
    config.set libs key value = (changeOf libs key value).map config.change := by
  unfold KongConfig.set changeOf
  dsimp only
  split
  · next hKey =>
    split
    · next hOff =>
      refine congrArg Except.ok ?_
      unfold KongConfig.put KongConfig.change
      congr 1
      funext field
      simp only [Function.update_apply, hOff, and_true]
      split_ifs <;> rfl
    · next hOn =>
      refine congrArg Except.ok ?_
      unfold KongConfig.put KongConfig.change
      congr 1
      funext field
      simp only [Function.update_apply, hOn, and_false, if_false]
      split_ifs <;> rfl
  · cases rules.lookup key with
    | some rule =>
      dsimp only
      cases rule.read libs (Text.trim value.toList) with
      | error fault => rfl
      | ok read =>
        cases read with
        | none =>
          refine congrArg Except.ok ?_
          unfold KongConfig.change
          simp
        | some read =>
          refine congrArg Except.ok ?_
          unfold KongConfig.put KongConfig.change
          congr 1
          funext field
          rw [Function.update_apply]
          dsimp only
          split_ifs <;> rfl
    | none =>
      dsimp only
      split
      · next hDirective =>
        refine congrArg Except.ok ?_
        unfold KongConfig.change
        congr 1
        funext directive
        rw [Function.update_apply]
        simp only [hDirective, and_true]
        split_ifs <;> rfl
      · next hUnknown =>
        refine congrArg Except.ok ?_
        unfold KongConfig.change
        simp [hUnknown]

/-! ## Two entries -/

section Entries

variable {libs : Libraries} {config config' : KongConfig} {key value : String} {change : Change}

theorem set_eq_ok (h : config.set libs key value = .ok config') :
    ∃ change, changeOf libs key value = .ok change ∧ config' = config.change change := by
  rw [set_eq] at h
  cases hChange : changeOf libs key value with
  | error fault =>
    rw [hChange] at h
    cases h
  | ok change =>
    rw [hChange] at h
    cases h
    exact ⟨change, rfl, rfl⟩

/-- An entry writes the field of its name, and `headers = off` one more. -/
theorem written_of (h : changeOf libs key value = .ok change) (field : String) :
    change.written field = none ∨ field = key ∨ field = "headers_upstream" ∧ key = "headers" ∧
      Text.trim value.toList = "off".toList ∧ change.written field = some (.list []) := by
  unfold changeOf at h
  dsimp only at h
  split at h
  · next hKey =>
    cases h
    rw [trim_trim]
    dsimp only
    split_ifs with hUpstream hHeaders
    · exact .inr (.inr ⟨hUpstream.1, hKey, hUpstream.2, rfl⟩)
    · exact .inr (.inl (hHeaders.trans hKey.symm))
    · exact .inl rfl
  · split at h
    · next rule hRule =>
      cases hRead : rule.read libs (Text.trim value.toList) with
      | error fault =>
        rw [hRead] at h
        cases h
      | ok read =>
        rw [hRead] at h
        cases h
        by_cases hField : field = key
        · exact .inr (.inl hField)
        · exact .inl (if_neg hField)
    · cases h
      exact .inl rfl

theorem directed_of (h : changeOf libs key value = .ok change) (directive : String) :
    change.directed directive = none ∨ directive = key := by
  unfold changeOf at h
  dsimp only at h
  split at h
  · cases h
    exact .inl rfl
  · split at h
    · next rule hRule =>
      cases hRead : rule.read libs (Text.trim value.toList) with
      | error fault =>
        rw [hRead] at h
        cases h
      | ok read =>
        rw [hRead] at h
        cases h
        exact .inl rfl
    · cases h
      by_cases hKey : directive = key
      · exact .inr hKey
      · exact .inl (if_neg fun hBoth => hKey hBoth.1)

theorem lookup_headers : rules.lookup "headers" = none := by decide +kernel

theorem lookup_headersUpstream : rules.lookup "headers_upstream" = some .array := by decide +kernel

theorem written_headersUpstream (h : changeOf libs "headers_upstream" value = .ok change) :
    change.written "headers_upstream" = some (.list (parseArray value.toList)) := by
  unfold changeOf at h
  rw [if_neg (by decide), lookup_headersUpstream] at h
  cases h
  dsimp only
  rw [if_pos rfl, parseArray, parsePieces, trim_trim]
  rfl

theorem written_headers (h : changeOf libs "headers" value = .ok change)
    (hOff : Text.trim value.toList = "off".toList) :
    change.written "headers_upstream" = some (.list []) := by
  unfold changeOf at h
  rw [if_pos rfl] at h
  cases h
  dsimp only
  rw [trim_trim, if_pos ⟨rfl, hOff⟩]

/-- Changes that do not write the same place differently can be made in both orders. -/
theorem change_comm {other : Change} (hWritten : ∀ field, change.written field = none ∨
      other.written field = none ∨ change.written field = other.written field)
    (hDirected : ∀ key, change.directed key = none ∨ other.directed key = none)
    (config : KongConfig) :
    (config.change change).change other = (config.change other).change change := by
  unfold KongConfig.change
  dsimp only
  congr 1
  · funext field
    obtain hNone | hNone | hSame := hWritten field
    · rw [hNone]
      rfl
    · rw [hNone]
      rfl
    · rw [hSame]
  · funext key
    obtain hNone | hNone := hDirected key
    · rw [hNone]
      rfl
    · rw [hNone]
      rfl

/-- One entry empties `headers_upstream` and the other fills it. -/
def Clashes (entry entry' : Sigma fun _ : String => String) : Prop :=
  entry.1 = "headers" ∧ Text.trim entry.2.toList = "off".toList ∧
    entry'.1 = "headers_upstream" ∧ parseArray entry'.2.toList ≠ []

variable {entry entry' : Sigma fun _ : String => String}

/-- The places that two entries write are apart. -/
theorem written_apart {change change' : Change} (h : changeOf libs entry.1 entry.2 = .ok change)
    (h' : changeOf libs entry'.1 entry'.2 = .ok change') (hKeys : entry.1 ≠ entry'.1)
    (hClash : ¬ Clashes entry entry') (hClash' : ¬ Clashes entry' entry) (field : String) :
    change.written field = none ∨ change'.written field = none ∨
      change.written field = change'.written field := by
  obtain ⟨key, value⟩ := entry
  obtain ⟨key', value'⟩ := entry'
  dsimp only at h h' hKeys
  unfold Clashes at hClash hClash'
  dsimp only at hClash hClash'
  obtain hNone | rfl | ⟨rfl, rfl, hOff, hEmpty⟩ := written_of h field
  · exact .inl hNone
  · obtain hNone' | hField' | ⟨rfl, rfl, hOff', hEmpty'⟩ := written_of h' field
    · exact .inr (.inl hNone')
    · exact absurd hField' hKeys
    · have hUpstream := written_headersUpstream h
      have hArray : parseArray value.toList = [] := by
        by_contra hNe
        exact hClash' ⟨rfl, hOff', rfl, hNe⟩
      rw [hUpstream, hEmpty', hArray]
      exact .inr (.inr rfl)
  · obtain hNone' | rfl | ⟨-, rfl, -, -⟩ := written_of h' "headers_upstream"
    · exact .inr (.inl hNone')
    · have hUpstream := written_headersUpstream h'
      have hArray : parseArray value'.toList = [] := by
        by_contra hNe
        exact hClash ⟨rfl, hOff, rfl, hNe⟩
      rw [hUpstream, hEmpty, hArray]
      exact .inr (.inr rfl)
    · exact absurd rfl hKeys

/-! ## Panics -/

/-- The entry names listeners on which their parser panics. -/
def Unreadable (entry : Sigma fun _ : String => String) : Prop :=
  rules.lookup entry.1 = some .listen ∧ OverrunsList entry.2.toList

theorem decides_parseListenOrDefault (value : List Char) :
    Decides (OverrunsList value) (¬ OverrunsList value) (parseListenOrDefault value) := by
  rw [← parseListenAddresses_panics_iff]
  unfold parseListenOrDefault
  cases parseListenAddresses value with
  | ok listen => exact (decides_ok listen).congr (by simp [Panics]) (by simp [Panics])
  | error fault =>
    cases fault with
    | error message => exact (decides_ok []).congr (by simp [Panics]) (by simp [Panics])
    | panic => exact decides_panic.congr (by simp [Panics]) (by simp [Panics])

theorem decides_read (libs : Libraries) (value : List Char) (rule : Rule) :
    Decides (rule = .listen ∧ OverrunsList value) (¬ (rule = .listen ∧ OverrunsList value))
      (rule.read libs value) := by
  cases rule
  case listen =>
    exact ((decides_parseListenOrDefault value).map _).congr (by simp) (by simp)
  all_goals exact (decides_ok _).congr (by simp) (by simp)

theorem decides_changeOf (libs : Libraries) (entry : Sigma fun _ : String => String) :
    Decides (Unreadable entry) (¬ Unreadable entry) (changeOf libs entry.1 entry.2) := by
  obtain ⟨key, value⟩ := entry
  unfold changeOf Unreadable
  dsimp only
  split
  · next hKey =>
    subst hKey
    exact (decides_ok _).congr (by simp [lookup_headers]) (by simp [lookup_headers])
  · cases rules.lookup key with
    | none => exact (decides_ok _).congr (by simp) (by simp)
    | some rule =>
      refine ((decides_read libs (Text.trim value.toList) rule).map _).congr ?_ (not_congr ?_)
      · rw [OverrunsList, trim_trim, Option.some.injEq]
        rfl
      · rw [OverrunsList, trim_trim, Option.some.injEq]
        rfl

theorem decides_set (libs : Libraries) (config : KongConfig)
    (entry : Sigma fun _ : String => String) :
    Decides (Unreadable entry) (¬ Unreadable entry) (config.set libs entry.1 entry.2) := by
  rw [set_eq]
  exact (decides_changeOf libs entry).map _

/-! ## Orders -/

/-- Two entries that do not clash commute. -/
theorem set_comm (hKeys : entry.1 ≠ entry'.1) (hClash : ¬ Clashes entry entry')
    (hClash' : ¬ Clashes entry' entry) (config : KongConfig) :
    (config.set libs entry.1 entry.2 >>= fun config => config.set libs entry'.1 entry'.2) =
      (config.set libs entry'.1 entry'.2 >>= fun config => config.set libs entry.1 entry.2) := by
  simp only [set_eq]
  cases h : changeOf libs entry.1 entry.2 with
  | error fault =>
    cases h' : changeOf libs entry'.1 entry'.2 with
    | error fault' =>
      cases h.symm.trans ((decides_changeOf libs entry).eq_panic h)
      cases h'.symm.trans ((decides_changeOf libs entry').eq_panic h')
      rfl
    | ok change' => rfl
  | ok change =>
    cases h' : changeOf libs entry'.1 entry'.2 with
    | error fault' => rfl
    | ok change' =>
      refine congrArg Except.ok (change_comm (written_apart h h' hKeys hClash hClash') ?_ config)
      intro directive
      obtain hNone | rfl := directed_of h directive
      · exact .inl hNone
      · obtain hNone' | hKey := directed_of h' entry.1
        · exact .inr hNone'
        · exact absurd hKey hKeys

end Entries

/-- The entry that empties `headers_upstream` meets one that fills it. -/
def HeadersClash (raw : AList fun _ : String => String) : Prop :=
  ∃ entry ∈ raw.entries, ∃ entry' ∈ raw.entries, Clashes entry entry'

variable {libs : Libraries} {config config' : KongConfig}
  {raw raw' : AList fun _ : String => String}

theorem foldl_bind {ε σ α : Type} (step : σ → α → Except ε σ) (x : Except ε σ) (l : List α) :
    (x >>= fun s => l.foldlM step s) = l.foldl (fun x a => x >>= fun s => step s a) x := by
  induction l generalizing x with
  | nil => exact bind_pure x
  | cons a l ih =>
    rw [List.foldl_cons, ← ih, bind_assoc]
    rfl

theorem applyRaw_perm (hPerm : raw'.entries.Perm raw.entries) (hClash : ¬ HeadersClash raw) :
    config.applyRaw libs raw' = config.applyRaw libs raw := by
  have hLookup : ∀ key, raw'.lookup key = raw.lookup key := fun key => AList.perm_lookup hPerm
  have hFold : raw'.entries.foldlM (fun config entry => config.set libs entry.1 entry.2) config =
      raw.entries.foldlM (fun config entry => config.set libs entry.1 entry.2) config := by
    have hStart := foldl_bind (fun config (entry : Sigma fun _ : String => String) =>
      KongConfig.set libs config entry.1 entry.2) (.ok config)
    refine (hStart raw'.entries).trans (Eq.trans ?_ (hStart raw.entries).symm)
    refine hPerm.foldl_eq' (fun entry hMem entry' hMem' result => ?_) _
    rw [hPerm.mem_iff] at hMem hMem'
    by_cases hKeys : entry.1 = entry'.1
    · rw [raw.nodupKeys.eq_of_fst_eq hMem hMem' hKeys]
    · cases result with
      | error fault => rfl
      | ok config =>
        exact set_comm hKeys (fun h => hClash ⟨entry, hMem, entry', hMem', h⟩)
          (fun h => hClash ⟨entry', hMem', entry, hMem, h⟩) config
  unfold KongConfig.applyRaw
  rw [hFold]
  simp only [hLookup]

theorem fields_kept {entries : List (Sigma fun _ : String => String)} {field : String}
    (h : entries.foldlM (fun config entry => config.set libs entry.1 entry.2) config = .ok config')
    (hOther : ∀ entry ∈ entries, entry.1 ≠ "headers" ∧ entry.1 ≠ field) :
    config'.fields field = config.fields field := by
  induction entries generalizing config with
  | nil =>
    cases h
    rfl
  | cons entry entries ih =>
    rw [List.foldlM_cons, Fallible.bind_eq_ok] at h
    obtain ⟨next, hSet, hRest⟩ := h
    obtain ⟨hHeaders, hField⟩ := hOther entry List.mem_cons_self
    rw [ih hRest fun other hMem => hOther other (List.mem_cons_of_mem entry hMem)]
    obtain ⟨change, hChange, rfl⟩ := set_eq_ok hSet
    obtain hNone | hKey | ⟨-, hKey, -⟩ := written_of hChange field
    · rw [change_fields, hNone]
      rfl
    · exact absurd hKey.symm hField
    · exact absurd hKey hHeaders

theorem headersUpstream_of {entry entry' : Sigma fun _ : String => String}
    {rest : List (Sigma fun _ : String => String)} {value : Value}
    (hRaw : raw.entries = entry :: entry' :: rest)
    (hOther : ∀ other ∈ rest, other.1 ≠ "headers" ∧ other.1 ≠ "headers_upstream")
    (hLast : ∀ change, changeOf libs entry'.1 entry'.2 = .ok change →
      change.written "headers_upstream" = some value)
    (h : config.applyRaw libs raw = .ok config') :
    config'.fields "headers_upstream" = value := by
  unfold KongConfig.applyRaw at h
  obtain ⟨done, hFold, hDone⟩ := Fallible.bind_eq_ok.mp h
  cases hDone
  rw [hRaw, List.foldlM_cons, Fallible.bind_eq_ok] at hFold
  obtain ⟨first, -, hFold⟩ := hFold
  rw [List.foldlM_cons, Fallible.bind_eq_ok] at hFold
  obtain ⟨second, hSecond, hFold⟩ := hFold
  obtain ⟨change, hChange, rfl⟩ := set_eq_ok hSecond
  dsimp only
  rw [fields_kept hFold hOther, change_fields, hLast change hChange]
  rfl

theorem decides_applyRaw (libs : Libraries) (config : KongConfig)
    (raw : AList fun _ : String => String) :
    Decides (∃ entry ∈ raw.entries, Unreadable entry) (¬ ∃ entry ∈ raw.entries, Unreadable entry)
      (config.applyRaw libs raw) :=
  (decides_all (decides_set libs) config raw.entries).andThen fun _ _ => decides_ok _

/-- A map with a clash has two orders that leave different values in `headers_upstream`. -/
theorem exists_orders (libs : Libraries) (config : KongConfig) (hClash : HeadersClash raw)
    (hReadable : ¬ ∃ entry ∈ raw.entries, Unreadable entry) :
    ∃ first last : AList fun _ : String => String, first.entries.Perm raw.entries ∧
      last.entries.Perm raw.entries ∧ config.applyRaw libs first ≠ config.applyRaw libs last := by
  obtain ⟨⟨key, headers⟩, hMem, ⟨key', upstream⟩, hMem', hKey, hOff, hKey', hFull⟩ := hClash
  dsimp only at hKey hOff hKey' hFull
  subst hKey hKey'
  have hNe : (⟨"headers_upstream", upstream⟩ : Sigma fun _ : String => String) ≠
      ⟨"headers", headers⟩ := by
    intro h
    have hNames : "headers_upstream" = "headers" := congrArg Sigma.fst h
    exact absurd hNames (by decide)
  have hPerm := List.perm_cons_erase hMem
  have hPerm' := hPerm.trans ((List.perm_cons_erase
    ((List.mem_erase_of_ne hNe).mpr hMem')).cons ⟨"headers", headers⟩)
  generalize (raw.entries.erase ⟨"headers", headers⟩).erase ⟨"headers_upstream", upstream⟩ = rest
    at hPerm'
  have hSwap := hPerm'.trans (List.Perm.swap _ _ rest)
  have hKeys := (List.perm_nodupKeys hPerm').mp raw.nodupKeys
  have hOther : ∀ other ∈ rest, other.1 ≠ "headers" ∧ other.1 ≠ "headers_upstream" := by
    intro other hRest
    obtain ⟨hFirst, hTail⟩ := List.nodupKeys_cons.mp hKeys
    obtain ⟨hSecond, -⟩ := List.nodupKeys_cons.mp hTail
    have hName : other.1 ∈ rest.keys := List.mem_keys_of_mem hRest
    exact ⟨fun h => hFirst (List.mem_cons_of_mem _ (h ▸ hName)), fun h => hSecond (h ▸ hName)⟩
  refine ⟨⟨_, hKeys⟩, ⟨_, (List.perm_nodupKeys hSwap).mp raw.nodupKeys⟩, hPerm'.symm, hSwap.symm,
    fun hSame => ?_⟩
  have hReads : ¬ ∃ entry ∈ _, Unreadable entry := fun ⟨entry, hEntry, hBad⟩ =>
    hReadable ⟨entry, hPerm'.mem_iff.mpr hEntry, hBad⟩
  obtain ⟨config', hDone⟩ := (decides_applyRaw libs config ⟨_, hKeys⟩).reads.mpr hReads
  have hFilled := headersUpstream_of rfl hOther (fun change h => written_headersUpstream h) hDone
  have hEmptied : config'.fields "headers_upstream" = .list [] :=
    headersUpstream_of rfl hOther (fun change h => written_headers h hOff) (hSame.symm.trans hDone)
  rw [hFilled] at hEmptied
  exact hFull (Value.list.inj hEmptied)

/-- Over every map, the entries give the same configuration in all orders if and only if none
of them panics the parser of listeners, or `headers = off` does not meet a `headers_upstream` that
names a header. -/
theorem applyRaw_order_iff (libs : Libraries) (config : KongConfig)
    (raw : AList fun _ : String => String) :
    (∀ raw' : AList fun _ : String => String, raw'.entries.Perm raw.entries →
      config.applyRaw libs raw' = config.applyRaw libs raw) ↔
      (∃ entry ∈ raw.entries, Unreadable entry) ∨ ¬ HeadersClash raw := by
  constructor
  · intro h
    by_contra hNot
    obtain ⟨hReadable, hClash⟩ := not_or.mp hNot
    obtain ⟨first, last, hFirst, hLast, hNe⟩ :=
      exists_orders libs config (not_not.mp hClash) hReadable
    exact hNe ((h first hFirst).trans (h last hLast).symm)
  · rintro (hPanic | hClash) raw' hPerm
    · have hPanic' : ∃ entry ∈ raw'.entries, Unreadable entry := by
        obtain ⟨entry, hMem, hBad⟩ := hPanic
        exact ⟨entry, hPerm.mem_iff.mpr hMem, hBad⟩
      exact ((decides_applyRaw libs config raw').panics.mpr hPanic').trans
        ((decides_applyRaw libs config raw).panics.mpr hPanic).symm
    · exact applyRaw_perm hPerm hClash

section HeadersOff

def headersOff : Sigma fun _ : String => String := ⟨"headers", "off"⟩

def headersUpstream : Sigma fun _ : String => String := ⟨"headers_upstream", "X-Kong-Upstream"⟩

/-- ASCII letters, and no floats. -/
def asciiLibraries : Libraries where
  toLowercase := List.map Char.toLower
  isAlphabetic := Char.isAlpha
  parseF64 := fun _ => none

def blankConfig : KongConfig where
  fields := fun _ => .list []
  nginxDirectives := fun _ => none
  raw := fun _ => none

def offFirst : AList fun _ : String => String :=
  ⟨[headersOff, headersUpstream], by simp [headersOff, headersUpstream]⟩

def offLast : AList fun _ : String => String :=
  ⟨[headersUpstream, headersOff], by simp [headersOff, headersUpstream]⟩

/-- `headers = off` empties the list when it comes last, and not when it comes first. -/
theorem headersUpstream_by_order : offLast.entries.Perm offFirst.entries ∧
    (blankConfig.applyRaw asciiLibraries offFirst).map
        (fun config => config.fields "headers_upstream") = .ok (.list ["X-Kong-Upstream"]) ∧
      (blankConfig.applyRaw asciiLibraries offLast).map
        (fun config => config.fields "headers_upstream") = .ok (.list []) := by
  refine ⟨List.Perm.swap _ _ _, ?_, ?_⟩
  · decide +kernel
  · decide +kernel

end HeadersOff

end KongRust.Config
