import KongRust.Budget.Amount
import KongRust.Foundation.Machine
import KongRust.Foundation.Text

/-!
# Types of the budget store

Errors, commands and answers of the virtual-key budget (`budget/model.rs`, `budget/admin.rs`,
`budget/governance.rs`). Clock readings are microseconds since the epoch and durations are
nanoseconds. Functions of other libraries are collected in `External`.
-/

namespace KongRust.Budget

/-! ## Errors -/

inductive BudgetErrorKind where
  | exhausted
  | accountingUnavailable
  | accountingUnresolved
  | unsupported
  | pricingUnavailable
  | outcomeUnknown
  | corrupt
  | numericOverflow
  | notFound
  | conflict
  | reconciliationRequired
  | intentActive
  | alreadyReconciled
  | accountBusy
  deriving DecidableEq

/-- The database errors the statements below can raise (`SQLSTATE`), and a value that does not
decode. -/
inductive SqlxError where
  | stringDataRightTruncation
  | numericValueOutOfRange
  | uniqueViolation
  | checkViolation
  | foreignKeyViolation
  | columnDecode
  deriving DecidableEq

/-- An error of the store, with the database error behind it, which `map_sqlx_error` logs. -/
structure BudgetStoreError where
  kind : BudgetErrorKind
  message : String
  database : Option SqlxError := none
  deriving DecidableEq

namespace BudgetStoreError

def new (kind : BudgetErrorKind) (message : String) : BudgetStoreError :=
  { kind := kind, message := message }

def corrupt (message : String) : BudgetStoreError := .new .corrupt message

def unavailable (message : String) : BudgetStoreError := .new .accountingUnavailable message

end BudgetStoreError

def mapSqlxError (error : SqlxError) : BudgetStoreError :=
  let kind : BudgetErrorKind := match error with
    | .stringDataRightTruncation => .accountingUnavailable
    | .numericValueOutOfRange => .numericOverflow
    | .uniqueViolation => .corrupt
    | .checkViolation => .corrupt
    | .foreignKeyViolation => .corrupt
    | .columnDecode => .accountingUnavailable
  { kind := kind, message := "预算 PostgreSQL 操作失败", database := some error }

def notFound : BudgetStoreError := .new .notFound "预算账户不存在"

/-! ## Texts -/

/-- `str::trim`. -/
def trimmed (s : String) : String := String.ofList (Text.trim s.toList)

def isLowerHex (s : String) : Bool :=
  s.toList.all fun c => ('0' ≤ c && c ≤ '9') || ('a' ≤ c && c ≤ 'f')

/-- `Uuid::to_string`: lower-case hexadecimal groups of 8, 4, 4, 4 and 12 digits. -/
def uuidText (id : Uuid) : String :=
  let digits := Nat.toDigits 16 id.toNat
  let hex := List.replicate (32 - digits.length) '0' ++ digits
  String.ofList (hex.take 8 ++ '-' :: (hex.drop 8).take 4 ++ '-' :: (hex.drop 12).take 4 ++
    '-' :: (hex.drop 16).take 4 ++ '-' :: hex.drop 20)

/-- `Uuid::is_nil`. -/
def isNil (id : Uuid) : Bool := id == 0

/-! ## Costs and prices -/

inductive CostStatus where
  | calculated
  | estimated
  | notIncurred
  | unavailable
  deriving DecidableEq

def CostStatus.asStr : CostStatus → String
  | .calculated => "calculated"
  | .estimated => "estimated"
  | .notIncurred => "not_incurred"
  | .unavailable => "unavailable"

structure BudgetUnitPriceSnapshot where
  usdPerMillion : Decimal
  source : String
  version : String
  snapshotDate : Int
  effectiveFrom : Int
  effectiveTo : Option Int
  deriving DecidableEq

structure BudgetPricingSnapshot where
  schemaVersion : Nat
  providerType : String
  model : String
  input : Option BudgetUnitPriceSnapshot
  output : Option BudgetUnitPriceSnapshot
  maxPromptTokens : Option Int
  deriving DecidableEq

def BUDGET_SCHEMA_VERSION : Nat := 1

structure BudgetCostOutcome where
  status : CostStatus
  amountUsd : Option Decimal
  reasons : List String

/-! ## Functions of other libraries -/

/-- A component of a canonical command encoding. -/
inductive JsonValue where
  | number (n : Nat)
  | string (s : String)
  | null

/-- The functions of other libraries that the store calls. -/
structure External where
  /-- `Sha256::digest` of a text, as lower-case hexadecimal digits. -/
  sha256Hex : String → String
  /-- Unicode normalisation form C. -/
  nfc : String → String
  /-- `serde_json::to_vec` of a tuple. -/
  jsonArray : List JsonValue → String
  /-- The bytes of `serde_json::to_vec` of a pricing snapshot. -/
  pricingJsonBytes : BudgetPricingSnapshot → Nat
  /-- `octet_length(pricing_snapshot::TEXT)` of the stored `JSONB` value. -/
  pricingTextBytes : BudgetPricingSnapshot → Nat

/-! ## Accounts and intents -/

inductive BudgetAccountingState where
  | clean
  | pending
  | unresolved
  deriving DecidableEq

/-- An account at one revision. -/
structure BudgetAccountSnapshot where
  virtualKeyId : Uuid
  virtualKeyName : String
  virtualKeyPrefix : String
  workspaceId : Option Uuid
  limitUsd : Option Usd
  usedUsd : Usd
  pendingCount : Nat
  unresolvedCount : Nat
  accountingRevision : Nat
  checkpointTailEvents : Nat
  state : BudgetAccountingState
  stateUpdatedAt : Nat
  deriving DecidableEq

inductive BudgetEligibility where
  | eligible
  | paused
  | exhausted
  deriving DecidableEq

structure BudgetInspection where
  eligibility : BudgetEligibility
  account : BudgetAccountSnapshot

structure CreateBudgetIntent where
  intentId : Uuid
  virtualKeyId : Uuid
  requestId : String
  operationId : String
  commandFingerprint : String
  pricingFingerprint : String
  pricingSnapshot : BudgetPricingSnapshot
  nodeId : Uuid
  ownerSessionId : Uuid
  staleAfter : Nat

structure MarkBudgetDispatching where
  intentId : Uuid
  virtualKeyId : Uuid
  requestId : String
  operationId : String
  nodeId : Uuid
  ownerSessionId : Uuid

inductive BudgetIntentState where
  | prepared
  | dispatching
  | unresolved
  | settled
  | resolved
  deriving DecidableEq

structure BudgetIntentRecord where
  id : Uuid
  virtualKeyId : Uuid
  requestId : String
  state : BudgetIntentState
  operationId : String
  commandFingerprint : String
  dispatchOperationId : Option String
  terminalOperationId : Option String
  terminalCommandFingerprint : Option String
  pricingFingerprint : String
  ownerSessionId : Uuid
  nodeId : Uuid
  lastAccountRevision : Nat
  observedCostUsd : Option Usd
  accountedCostUsd : Option Usd
  costStatus : Option CostStatus
  costReasons : List String
  usageFactId : Option Uuid
  resolutionEntryId : Option Uuid
  createdAt : Nat
  updatedAt : Nat
  deriving DecidableEq

inductive BudgetIntentDisposition where
  | created
  | createReplayed
  | paused
  | dispatchApplied
  | dispatchReplayed
  deriving DecidableEq

structure BudgetIntent where
  disposition : BudgetIntentDisposition
  record : Option BudgetIntentRecord
  account : Option BudgetAccountSnapshot

structure SettleBudgetIntent where
  intentId : Uuid
  virtualKeyId : Uuid
  requestId : String
  operationId : String
  commandFingerprint : String
  pricingFingerprint : String
  usageFactId : Option Uuid
  cost : BudgetCostOutcome

inductive BudgetSettlementDisposition where
  | applied
  | replayed
  | markedUnresolved
  | alreadyUnresolved
  | alreadyReconciled
  deriving DecidableEq

structure BudgetSettlement where
  disposition : BudgetSettlementDisposition
  intent : BudgetIntentRecord
  account : Option BudgetAccountSnapshot

/-! ## Owners, recovery and checkpoints -/

/-- `RegisterBudgetOwner` and `HeartbeatBudgetOwner`. -/
structure BudgetOwnerCommand where
  sessionId : Uuid
  nodeId : Uuid
  leaseDuration : Nat

structure StopBudgetOwner where
  sessionId : Uuid
  nodeId : Uuid

structure BudgetOwnerLease where
  sessionId : Uuid
  nodeId : Uuid
  deploymentNamespace : String
  startedAt : Nat
  lastHeartbeatAt : Nat
  expiresAt : Nat
  replayed : Bool

structure StaleIntentCandidate where
  intentId : Uuid
  virtualKeyId : Uuid

inductive RecoveredStaleIntent where
  | settledNotIncurred
  | markedUnresolved
  | skipped
  deriving DecidableEq

structure CheckpointBudgetAccount where
  virtualKeyId : Uuid
  operationId : String

structure BudgetCheckpoint where
  virtualKeyId : Uuid
  revision : Nat
  accountedCostUsd : Usd
  createdAt : Nat

/-! ## Administration -/

structure BudgetAdminScope where
  workspaceId : Uuid
  defaultWorkspaceId : Uuid

def BudgetAdminScope.contains (scope : BudgetAdminScope) (workspaceId : Option Uuid) : Bool :=
  workspaceId.getD scope.defaultWorkspaceId == scope.workspaceId

inductive BudgetReconciliationResolution where
  | settle (costUsd : Decimal)
  | waive

structure ReconcileBudgetIntent where
  virtualKeyId : Uuid
  intentId : Uuid
  operationId : Uuid
  scope : BudgetAdminScope
  actor : String
  reason : String
  resolution : BudgetReconciliationResolution

inductive BudgetReconciliationDisposition where
  | applied
  | replayed
  | numericOverflow
  | numericOverflowReplayed
  deriving DecidableEq

structure RebuildBudgetAccount where
  virtualKeyId : Uuid
  operationId : Uuid
  scope : BudgetAdminScope
  actor : String
  reason : String
  dryRun : Bool
  maxAttempts : Nat

structure CreateBudgetAccount where
  virtualKeyId : Uuid
  name : String
  keyHash : String
  keyPrefix : String
  consumerId : Option Uuid
  allowedModels : Option (List String)
  tpmLimit : Option Int
  rpmLimit : Option Int
  budgetLimitUsd : Option Decimal
  enabled : Bool
  expiresAt : Option Nat
  tags : Option (List String)
  workspaceId : Uuid

inductive BudgetLimitMutation where
  | unchanged
  | set (limit : Decimal)
  | clear

inductive BudgetOptionalMutation (α : Type) where
  | unchanged
  | set (value : α)
  | clear

structure UpdateBudgetAccount where
  virtualKeyId : Uuid
  scope : BudgetAdminScope
  name : Option String
  consumerId : BudgetOptionalMutation Uuid
  allowedModels : BudgetOptionalMutation (List String)
  tpmLimit : BudgetOptionalMutation Int
  rpmLimit : BudgetOptionalMutation Int
  budgetLimit : BudgetLimitMutation
  enabled : Option Bool
  expiresAt : BudgetOptionalMutation Nat
  tags : BudgetOptionalMutation (List String)

structure DeleteBudgetAccount where
  virtualKeyId : Uuid
  scope : BudgetAdminScope

/-! ## Configuration -/

structure PgBudgetStoreConfig where
  deploymentNamespace : String
  checkpointHardTailEvents : Nat
  configFingerprint : String
  statementTimeout : Nat
  lockTimeout : Nat

variable (duration : Nat)

/-- `Duration::as_millis`. -/
def asMillis (duration : Nat) : Nat := duration / 1000000

/-- `Duration::as_secs`. -/
def asSecs (duration : Nat) : Nat := duration / 1000000000

def validateFingerprint (value field : String) : Except BudgetStoreError Unit :=
  if Text.len value ≠ 64 ∨ isLowerHex value = false then
    .error (.corrupt (field ++ " 必须是 64 位小写十六进制"))
  else .ok ()

def validatePositiveDuration (duration : Nat) (field : String) : Except BudgetStoreError Unit :=
  if asMillis duration = 0 then .error (.corrupt (field ++ " 不能小于 1ms")) else .ok ()

def PgBudgetStoreConfig.validate (config : PgBudgetStoreConfig) : Except BudgetStoreError Unit := do
  if trimmed config.deploymentNamespace = "" then
    throw (.corrupt "deployment namespace 不能为空")
  if config.checkpointHardTailEvents = 0 then
    throw (.corrupt "checkpoint hard tail 必须为正数")
  validateFingerprint config.configFingerprint "config fingerprint"
  validatePositiveDuration config.statementTimeout "statement timeout"
  validatePositiveDuration config.lockTimeout "lock timeout"
  if config.statementTimeout < config.lockTimeout then
    throw (.corrupt "lock timeout 不能大于 statement timeout")

/-- A store is only built from a valid configuration. -/
structure PgBudgetStore where
  config : PgBudgetStoreConfig
  valid : config.validate = .ok ()

end KongRust.Budget
