import KongRust.Foundation.Machine

/-!
# The scripts of the migrations

A script as far as tables and their named parts (columns, constraints, indexes) go: which statements
make them, which fail when they are there or missing. What a script does with rows, and the parts
that no statement names again, are left out.
-/

namespace KongRust.Migrations

/-! ## Tables -/

structure MetaRow where
  lastExecuted : String
  executed : List String
  pending : List String
  deriving DecidableEq

/-- `schema_meta` with its one row, when the table is there, and the named parts of every other
table. -/
structure Database where
  schemaMeta : Option (Option MetaRow)
  tables : AList fun _ : String => List String

namespace Database

def empty : Database := ⟨none, ∅⟩

variable (db : Database)

def hasTable (db : Database) (table : String) : Bool :=
  if table = "schema_meta" then db.schemaMeta.isSome else (db.tables.lookup table).isSome

def create (db : Database) (table : String) (parts : List String) : Database :=
  if table = "schema_meta" then { db with schemaMeta := some none }
  else { db with tables := db.tables.insert table parts }

/-- `DROP TABLE IF EXISTS … CASCADE`. -/
def drop (db : Database) (table : String) : Database :=
  if table = "schema_meta" then { db with schemaMeta := none }
  else { db with tables := db.tables.erase table }

/-- The `executed` column of the row, `{}` without a row. -/
def executed (db : Database) : List String :=
  match db.schemaMeta with
  | some (some row) => row.executed
  | _ => []

def pending (db : Database) : List String :=
  match db.schemaMeta with
  | some (some row) => row.pending
  | _ => []

end Database

/-! ## Statements -/

inductive Ddl where
  /-- `CREATE TABLE IF NOT EXISTS`, with the tables that it references. -/
  | createIfMissing (table : String) (references parts : List String)
  | create (table : String) (references parts : List String)
  /-- `ADD COLUMN IF NOT EXISTS` or `CREATE INDEX IF NOT EXISTS`. -/
  | addIfMissing (table part : String) (references : List String)
  /-- `ADD COLUMN`, `ADD CONSTRAINT` or `CREATE INDEX`. -/
  | add (table part : String)
  /-- `DROP CONSTRAINT`. -/
  | remove (table part : String)
  /-- Any other statement about a table. -/
  | use (table : String)

namespace Ddl

variable (db : Database)

def makeTable (db : Database) (table : String) (references parts : List String) :
    Option Database :=
  if references.all db.hasTable then some (db.create table parts) else none

/-- A change of the parts of a table; without the table it fails. -/
def changeParts (db : Database) (table : String)
    (change : List String → Option (List String)) : Option Database :=
  match db.tables.lookup table with
  | none => none
  | some parts => (change parts).map fun parts =>
    { db with tables := db.tables.insert table parts }

/-- One statement; `none` is an error. -/
def run (db : Database) : Ddl → Option Database
  | .createIfMissing table references parts =>
    if db.hasTable table then some db else makeTable db table references parts
  | .create table references parts =>
    if db.hasTable table then none else makeTable db table references parts
  | .addIfMissing table part references => changeParts db table fun parts =>
    if part ∈ parts then some parts
    else if references.all db.hasTable then some (parts ++ [part]) else none
  | .add table part => changeParts db table fun parts =>
    if part ∈ parts then none else some (parts ++ [part])
  | .remove table part => changeParts db table fun parts =>
    if part ∈ parts then some (parts.erase part) else none
  | .use table => if db.hasTable table then some db else none

def creates : Ddl → Option String
  | .createIfMissing table _ _ | .create table _ _ => some table
  | _ => none

end Ddl

/-! ## The scripts -/

/-- `000_base.sql`. -/
def base : List Ddl :=
  [.createIfMissing "schema_meta" [] [], .createIfMissing "certificates" [] [],
    .createIfMissing "ca_certificates" [] [], .createIfMissing "consumers" [] [],
    .createIfMissing "services" ["certificates"] [], .createIfMissing "routes" ["services"] [],
    .createIfMissing "snis" ["certificates"] [], .createIfMissing "upstreams" ["certificates"] [],
    .createIfMissing "targets" ["upstreams"] [],
    .createIfMissing "plugins" ["routes", "services", "consumers"] [],
    .createIfMissing "sm_vaults" [] [],
    .addIfMissing "services" "services_fkey_client_certificate" [],
    .addIfMissing "routes" "routes_fkey_service" [],
    .addIfMissing "snis" "snis_fkey_certificate" [],
    .addIfMissing "upstreams" "upstreams_fkey_client_certificate" [],
    .addIfMissing "targets" "targets_fkey_upstream" [],
    .addIfMissing "targets" "targets_target" [], .addIfMissing "plugins" "plugins_fkey_route" [],
    .addIfMissing "plugins" "plugins_fkey_service" [],
    .addIfMissing "plugins" "plugins_fkey_consumer" [], .addIfMissing "plugins" "plugins_name" [],
    .addIfMissing "services" "services_tags_idx" [], .addIfMissing "routes" "routes_tags_idx" [],
    .addIfMissing "consumers" "consumers_tags_idx" [],
    .addIfMissing "plugins" "plugins_tags_idx" [],
    .addIfMissing "upstreams" "upstreams_tags_idx" [],
    .addIfMissing "targets" "targets_tags_idx" [],
    .addIfMissing "certificates" "certificates_tags_idx" [],
    .addIfMissing "snis" "snis_tags_idx" [],
    .addIfMissing "ca_certificates" "ca_certificates_tags_idx" [],
    .addIfMissing "sm_vaults" "sm_vaults_tags_idx" []]

/-- `001_add_workspaces.sql`. -/
def addWorkspaces : List Ddl :=
  [.createIfMissing "workspaces" [] [], .use "workspaces",
    .addIfMissing "services" "ws_id" ["workspaces"], .use "services", .use "workspaces",
    .addIfMissing "services" "services_ws_id_idx" [],
    .addIfMissing "routes" "ws_id" ["workspaces"], .use "routes", .use "workspaces",
    .addIfMissing "routes" "routes_ws_id_idx" [], .addIfMissing "consumers" "ws_id" ["workspaces"],
    .use "consumers", .use "workspaces", .addIfMissing "consumers" "consumers_ws_id_idx" [],
    .addIfMissing "plugins" "ws_id" ["workspaces"], .use "plugins", .use "workspaces",
    .addIfMissing "plugins" "plugins_ws_id_idx" [],
    .addIfMissing "upstreams" "ws_id" ["workspaces"], .use "upstreams", .use "workspaces",
    .addIfMissing "upstreams" "upstreams_ws_id_idx" [],
    .addIfMissing "targets" "ws_id" ["workspaces"], .use "targets", .use "workspaces",
    .addIfMissing "targets" "targets_ws_id_idx" [],
    .addIfMissing "certificates" "ws_id" ["workspaces"], .use "certificates", .use "workspaces",
    .addIfMissing "certificates" "certificates_ws_id_idx" [],
    .addIfMissing "snis" "ws_id" ["workspaces"], .use "snis", .use "workspaces",
    .addIfMissing "snis" "snis_ws_id_idx" [],
    .addIfMissing "ca_certificates" "ws_id" ["workspaces"], .use "ca_certificates",
    .use "workspaces", .addIfMissing "ca_certificates" "ca_certificates_ws_id_idx" [],
    .addIfMissing "sm_vaults" "ws_id" ["workspaces"], .use "sm_vaults", .use "workspaces",
    .addIfMissing "sm_vaults" "sm_vaults_ws_id_idx" []]

/-- `002_ai_gateway.sql`. -/
def aiGateway : List Ddl :=
  [.createIfMissing "ai_providers" ["workspaces"] [],
    .createIfMissing "ai_models" ["ai_providers", "workspaces"] [],
    .createIfMissing "ai_virtual_keys" ["consumers", "workspaces"] [],
    .addIfMissing "ai_models" "idx_ai_models_name" [],
    .addIfMissing "ai_models" "idx_ai_models_provider_id" [],
    .addIfMissing "ai_virtual_keys" "idx_ai_virtual_keys_key_hash" [],
    .addIfMissing "ai_virtual_keys" "idx_ai_virtual_keys_consumer_id" []]

/-- `003_keys.sql`. -/
def keys : List Ddl :=
  [.createIfMissing "key_sets" ["workspaces"] [], .addIfMissing "key_sets" "key_sets_tags_idx" [],
    .createIfMissing "keys" ["key_sets", "workspaces"] [],
    .addIfMissing "keys" "keys_fkey_key_sets" [], .addIfMissing "keys" "keys_tags_idx" []]

/-- `004_ai_model_max_input_tokens.sql`. -/
def aiModelMaxInputTokens : List Ddl :=
  [.add "ai_models" "max_input_tokens"]

/-- `005_ai_model_weight_limit.sql`. -/
def aiModelWeightLimit : List Ddl :=
  [.add "ai_models" "ai_models_weight_range"]

/-- `006_ai_usage_logs.sql`. -/
def aiUsageLogs : List Ddl :=
  [.use "ai_models", .add "ai_models" "ai_models_input_cost_valid",
    .add "ai_models" "ai_models_output_cost_valid", .create "ai_usage_logs" [] [],
    .add "ai_usage_logs" "idx_ai_usage_logs_workspace_started",
    .add "ai_usage_logs" "idx_ai_usage_logs_workspace_actual_model_started",
    .add "ai_usage_logs" "idx_ai_usage_logs_workspace_model_group_started",
    .add "ai_usage_logs" "idx_ai_usage_logs_workspace_virtual_key_started",
    .add "ai_usage_logs" "idx_ai_usage_logs_workspace_route_started",
    .add "ai_usage_logs" "idx_ai_usage_logs_workspace_service_started",
    .add "ai_usage_logs" "idx_ai_usage_logs_workspace_provider_started",
    .add "ai_usage_logs" "idx_ai_usage_logs_workspace_consumer_started"]

/-- `007_ai_virtual_key_budget_accounting.sql`. -/
def aiVirtualKeyBudgetAccounting : List Ddl :=
  [.use "ai_virtual_keys", .add "ai_virtual_keys" "ai_virtual_keys_budget_limit_valid",
    .add "ai_virtual_keys" "ai_virtual_keys_budget_used_valid",
    .add "ai_virtual_keys" "ai_virtual_keys_rpm_limit_valid",
    .add "ai_virtual_keys" "ai_virtual_keys_tpm_limit_valid",
    .add "ai_virtual_keys" "budget_pending_count",
    .add "ai_virtual_keys" "budget_unresolved_count",
    .add "ai_virtual_keys" "budget_accounting_revision",
    .add "ai_virtual_keys" "budget_checkpoint_tail_events",
    .add "ai_virtual_keys" "budget_state_updated_at",
    .add "ai_virtual_keys" "budget_accounting_state",
    .add "ai_virtual_keys" "ai_virtual_keys_budget_pending_count_nonnegative",
    .add "ai_virtual_keys" "ai_virtual_keys_budget_unresolved_count_nonnegative",
    .add "ai_virtual_keys" "ai_virtual_keys_budget_accounting_revision_nonnegative",
    .add "ai_virtual_keys" "ai_virtual_keys_budget_checkpoint_tail_events_nonnegative",
    .create "ai_budget_runtime_settings" [] [],
    .create "ai_budget_owner_sessions" ["ai_budget_runtime_settings"] [],
    .add "ai_budget_owner_sessions" "ai_budget_owner_sessions_expiry_idx",
    .create "ai_budget_ledger" [] ["ai_budget_ledger_request_terminal_consistency"],
    .add "ai_budget_ledger" "ai_budget_ledger_key_time_idx",
    .add "ai_budget_ledger" "ai_budget_ledger_open_idx",
    .add "ai_budget_ledger" "ai_budget_ledger_owner_open_idx",
    .add "ai_budget_ledger" "ai_budget_ledger_parent_idx",
    .add "ai_budget_ledger" "ai_budget_ledger_revision_idx", .create "ai_budget_checkpoints" [] [],
    .use "ai_virtual_keys", .use "ai_budget_ledger", .use "ai_budget_checkpoints",
    .use "ai_virtual_keys"]

/-- `008_ai_budget_overflow_idempotency.sql`. -/
def aiBudgetOverflowIdempotency : List Ddl :=
  [.remove "ai_budget_ledger" "ai_budget_ledger_request_terminal_consistency",
    .add "ai_budget_ledger" "ai_budget_ledger_request_terminal_consistency"]

/-- `009_ai_context_compression_usage.sql`. -/
def aiContextCompressionUsage : List Ddl :=
  [.add "ai_usage_logs" "context_compression_status",
    .add "ai_usage_logs" "context_compression_reason",
    .add "ai_usage_logs" "context_compression_backend",
    .add "ai_usage_logs" "context_compression_ccr",
    .add "ai_usage_logs" "context_compression_tokens_before",
    .add "ai_usage_logs" "context_compression_tokens_after",
    .add "ai_usage_logs" "context_compression_tokens_saved",
    .add "ai_usage_logs" "context_compression_hop_latency_ms",
    .add "ai_usage_logs" "ai_usage_logs_context_compression_status_value",
    .add "ai_usage_logs" "ai_usage_logs_context_compression_reason_value",
    .add "ai_usage_logs" "ai_usage_logs_context_compression_bundle_consistency",
    .add "ai_usage_logs" "ai_usage_logs_context_compression_token_bundle",
    .add "ai_usage_logs" "ai_usage_logs_context_compression_hop_latency_nonnegative",
    .add "ai_usage_logs" "ai_usage_logs_context_compression_backend_shape"]

/-! ## The tables of constants -/

structure Migration where
  name : String
  sql : List Ddl

def CORE_MIGRATIONS : List Migration :=
  [⟨"000_base", base⟩, ⟨"001_add_workspaces", addWorkspaces⟩, ⟨"002_ai_gateway", aiGateway⟩,
    ⟨"003_keys", keys⟩, ⟨"004_ai_model_max_input_tokens", aiModelMaxInputTokens⟩,
    ⟨"005_ai_model_weight_limit", aiModelWeightLimit⟩, ⟨"006_ai_usage_logs", aiUsageLogs⟩,
    ⟨"007_ai_virtual_key_budget_accounting", aiVirtualKeyBudgetAccounting⟩,
    ⟨"008_ai_budget_overflow_idempotency", aiBudgetOverflowIdempotency⟩,
    ⟨"009_ai_context_compression_usage", aiContextCompressionUsage⟩]

def KNOWN_TABLES : List String :=
  ["plugins", "targets", "snis", "routes", "upstreams", "services", "consumers", "certificates",
    "ca_certificates", "sm_vaults", "ai_usage_logs", "ai_budget_ledger", "ai_budget_checkpoints",
    "ai_budget_owner_sessions", "ai_budget_runtime_settings", "ai_virtual_keys", "ai_models",
    "ai_providers", "keys", "key_sets", "schema_meta", "workspaces"]

def Migration.creates (migration : Migration) : List String :=
  migration.sql.filterMap Ddl.creates

def migrationNames : List String := CORE_MIGRATIONS.map Migration.name

theorem migrationNames_nodup : migrationNames.Nodup := by decide

/-! ## What a script keeps -/

namespace Database

variable (db : Database)

theorem hasTable_create (table other : String) (parts : List String) :
    (db.create table parts).hasTable other = (decide (other = table) || db.hasTable other) := by
  unfold create hasTable
  by_cases hMeta : table = "schema_meta"
  · subst hMeta
    by_cases hOther : other = "schema_meta"
    · simp [hOther]
    · simp [hOther]
  · by_cases hOther : other = "schema_meta"
    · simp [hMeta, hOther, Ne.symm hMeta]
    · by_cases hSame : other = table
      · subst hSame
        simp [hMeta]
      · simp [hMeta, hOther, hSame, AList.lookup_insert_ne hSame]

theorem executed_drop_ne {table : String} (h : table ≠ "schema_meta") :
    (db.drop table).executed = db.executed := by
  unfold drop
  rw [if_neg h]
  rfl

theorem executed_create (table : String) (parts : List String) (h : db.hasTable table = false) :
    (db.create table parts).executed = db.executed := by
  unfold create
  by_cases hMeta : table = "schema_meta"
  · rw [if_pos hMeta]
    rw [hasTable, if_pos hMeta, Option.isSome_eq_false_iff, Option.isNone_iff_eq_none] at h
    unfold executed
    rw [h]
  · rw [if_neg hMeta]
    rfl

end Database

namespace Ddl

/-- A statement loses no table, leaves the recorded list and makes sure of its own table. -/
structure Kept (statement : Ddl) (db after : Database) : Prop where
  tables : ∀ table, db.hasTable table = true → after.hasTable table = true
  executed : after.executed = db.executed
  creates : ∀ table, statement.creates = some table → after.hasTable table = true

variable {statement : Ddl} {db after : Database} {table : String}

theorem makeTable_kept {references parts : List String} (hMissing : db.hasTable table = false)
    (hCreates : statement.creates = some table)
    (h : makeTable db table references parts = some after) : statement.Kept db after := by
  unfold makeTable at h
  split at h
  · cases h
    refine ⟨fun other hOther => ?_, db.executed_create table parts hMissing, fun other hSame => ?_⟩
    · rw [Database.hasTable_create, hOther, Bool.or_true]
    · rw [hCreates] at hSame
      cases hSame
      rw [Database.hasTable_create, decide_eq_true rfl, Bool.true_or]
  · cases h

theorem changeParts_kept {change : List String → Option (List String)}
    (hCreates : statement.creates = none) (h : changeParts db table change = some after) :
    statement.Kept db after := by
  unfold changeParts at h
  cases hLookup : db.tables.lookup table with
  | none =>
    rw [hLookup] at h
    cases h
  | some parts =>
    rw [hLookup] at h
    obtain ⟨changed, -, rfl⟩ := Option.map_eq_some_iff.mp h
    refine ⟨fun other hOther => ?_, rfl, fun other hSame => ?_⟩
    · unfold Database.hasTable at hOther ⊢
      by_cases hMeta : other = "schema_meta"
      · rw [if_pos hMeta] at hOther ⊢
        exact hOther
      · rw [if_neg hMeta] at hOther ⊢
        by_cases hTable : other = table
        · subst hTable
          rw [AList.lookup_insert]
          rfl
        · rw [AList.lookup_insert_ne hTable]
          exact hOther
    · rw [hCreates] at hSame
      cases hSame

theorem run_kept (h : statement.run db = some after) : statement.Kept db after := by
  cases statement with
  | createIfMissing table references parts =>
    unfold run at h
    dsimp only at h
    by_cases hTable : db.hasTable table = true
    · rw [if_pos hTable] at h
      cases h
      refine ⟨fun _ hOther => hOther, rfl, fun other hSame => ?_⟩
      cases hSame
      exact hTable
    · rw [if_neg hTable] at h
      exact makeTable_kept (Bool.eq_false_iff.mpr hTable) rfl h
  | create table references parts =>
    unfold run at h
    dsimp only at h
    by_cases hTable : db.hasTable table = true
    · rw [if_pos hTable] at h
      cases h
    · rw [if_neg hTable] at h
      exact makeTable_kept (Bool.eq_false_iff.mpr hTable) rfl h
  | addIfMissing table part references | add table part | remove table part =>
    exact changeParts_kept rfl h
  | use table =>
    unfold run at h
    dsimp only at h
    split at h
    · cases h
      exact ⟨fun _ hOther => hOther, rfl, fun other hSame => by cases hSame⟩
    · cases h

end Ddl

theorem script_kept {script : List Ddl} {db after : Database}
    (h : script.foldlM Ddl.run db = some after) :
    (∀ table, db.hasTable table = true → after.hasTable table = true) ∧
      after.executed = db.executed ∧
        ∀ table ∈ script.filterMap Ddl.creates, after.hasTable table = true := by
  induction script generalizing db with
  | nil =>
    cases h
    exact ⟨fun _ hTable => hTable, rfl, fun _ hTable => absurd hTable List.not_mem_nil⟩
  | cons statement script ih =>
    rw [List.foldlM_cons, Option.bind_eq_bind, Option.bind_eq_some_iff] at h
    obtain ⟨next, hFirst, hRest⟩ := h
    have hKept := Ddl.run_kept hFirst
    obtain ⟨hTables, hExecuted, hCreates⟩ := ih hRest
    refine ⟨fun table hTable => hTables table (hKept.tables table hTable),
      hExecuted.trans hKept.executed, fun table hTable => ?_⟩
    cases hNew : statement.creates with
    | none =>
      rw [List.filterMap_cons_none hNew] at hTable
      exact hCreates table hTable
    | some created =>
      rw [List.filterMap_cons_some hNew] at hTable
      obtain rfl | hLater := List.mem_cons.mp hTable
      · exact hTables table (hKept.creates table hNew)
      · exact hCreates table hLater

end KongRust.Migrations
