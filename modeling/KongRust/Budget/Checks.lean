import KongRust.Budget.Schema

/-!
# Reads and checks of the budget store

What the transactions of `budget/postgres.rs` read and check before they write: snapshots of
accounts and intents, the identity of an intent, the format of a command, the configuration of the
deployment and the liveness of an owner session. `now` is the database clock during a transaction.
-/

namespace KongRust.Budget

open Transaction

/-! ## Accounts -/

/-- `AccountRow::into_snapshot`; the columns' types leave nothing to reject. -/
def AccountRow.intoSnapshot (row : AccountRow) (id : Uuid) : BudgetAccountSnapshot where
  virtualKeyId := id
  virtualKeyName := row.name
  virtualKeyPrefix := row.keyPrefix
  workspaceId := row.wsId
  limitUsd := row.budgetLimit
  usedUsd := row.budgetUsed
  pendingCount := row.budgetPendingCount
  unresolvedCount := row.budgetUnresolvedCount
  accountingRevision := row.budgetAccountingRevision
  checkpointTailEvents := row.budgetCheckpointTailEvents
  state := row.budgetAccountingState
  stateUpdatedAt := row.budgetStateUpdatedAt

variable (account : BudgetAccountSnapshot)

def expectedState (account : BudgetAccountSnapshot) : BudgetAccountingState :=
  if 0 < account.unresolvedCount then .unresolved
  else if 0 < account.pendingCount then .pending
  else .clean

def validateAccountInvariants (account : BudgetAccountSnapshot) : Except BudgetStoreError Unit :=
  if account.state ≠ expectedState account then
    .error (.corrupt "预算账户生成 state 与计数不一致")
  else .ok ()

def loadLockedAccount (id : Uuid) (missing : BudgetStoreError) : Tx BudgetAccountSnapshot := do
  let row ← okOr (← lockAccount id) missing
  let account := row.intoSnapshot id
  lift (validateAccountInvariants account)
  return account

/-- `i64::checked_add`. -/
def checkedAddI64 (a b : Nat) : Option Nat := Machine.checkedAdd BIGINT a b

def checkedNextRevision (account : BudgetAccountSnapshot) : Except BudgetStoreError Nat :=
  match checkedAddI64 account.checkpointTailEvents 1 with
  | none => .error (.corrupt "预算 tail count 溢出")
  | some _ =>
    match checkedAddI64 account.accountingRevision 1 with
    | none => .error (.corrupt "预算 revision 溢出")
    | some revision => .ok revision

/-- The next revision of `mark_unresolved` and `settle`, which test the revision first. -/
def checkedSettleRevision (account : BudgetAccountSnapshot) : Except BudgetStoreError Nat :=
  match checkedAddI64 account.accountingRevision 1 with
  | none => .error (.corrupt "预算 revision 溢出")
  | some revision =>
    match checkedAddI64 account.checkpointTailEvents 1 with
    | none => .error (.corrupt "预算 tail count 溢出")
    | some _ => .ok revision

/-! ## Intents -/

/-- `IntentRow::into_record`. -/
def LedgerRow.intoRecord (row : LedgerRow) (id : Uuid) :
    Except BudgetStoreError BudgetIntentRecord := do
  let state ← match row.status, row.dispatchState with
    | .pending, some .prepared => pure BudgetIntentState.prepared
    | .pending, some .dispatching => pure BudgetIntentState.dispatching
    | .unresolved, _ => pure BudgetIntentState.unresolved
    | .settled, _ => pure BudgetIntentState.settled
    | .resolved, _ => pure BudgetIntentState.resolved
    | _, _ => throw (.corrupt "request intent 状态非法")
  let requestId ← row.requestId.elim (throw (.corrupt "request intent 缺少 request ID")) pure
  let commandFingerprint ←
    row.commandFingerprint.elim (throw (.corrupt "request intent 缺少 command fingerprint")) pure
  let pricingFingerprint ←
    row.pricingFingerprint.elim (throw (.corrupt "request intent 缺少 pricing fingerprint")) pure
  let ownerSessionId ←
    row.ownerSessionId.elim (throw (.corrupt "request intent 缺少 owner session")) pure
  let nodeId ← row.nodeId.elim (throw (.corrupt "request intent 缺少 node ID")) pure
  return {
    id := id
    virtualKeyId := row.virtualKeyId
    requestId := requestId
    state := state
    operationId := row.operationId
    commandFingerprint := trimmed commandFingerprint
    dispatchOperationId := row.dispatchOperationId
    terminalOperationId := row.terminalOperationId
    terminalCommandFingerprint := row.terminalCommandFingerprint.map trimmed
    pricingFingerprint := trimmed pricingFingerprint
    ownerSessionId := ownerSessionId
    nodeId := nodeId
    lastAccountRevision := row.lastAccountRevision
    observedCostUsd := row.observedCostUsd
    accountedCostUsd := row.accountedCostUsd
    costStatus := row.costStatus
    costReasons := row.costReasons
    usageFactId := row.usageFactId
    resolutionEntryId := row.resolutionEntryId
    createdAt := row.createdAt
    updatedAt := row.updatedAt
  }

/-- `SELECT … FROM ai_budget_ledger WHERE id = $1`. -/
def lockIntentById (intentId : Uuid) : Tx (Option LedgerRow) := do
  let db ← get
  return db.ledger.lookup intentId

/-- The row that holds a request identifier; the column is unique. -/
def Db.intentByRequest (db : Db) (requestId : String) : Option (Uuid × LedgerRow) :=
  (db.ledger.entries.find? fun entry => entry.2.requestId == some requestId).map
    fun entry => (entry.1, entry.2)

def lockIntentByRequest (requestId : String) : Tx (Option (Uuid × LedgerRow)) := do
  let db ← get
  return db.intentByRequest requestId

variable (existing : LedgerRow)

def verifyIntentIdentity (existing : LedgerRow) (virtualKeyId : Uuid) (requestId : String)
    (ownerSessionId nodeId : Option Uuid) : Except BudgetStoreError Unit :=
  if existing.virtualKeyId ≠ virtualKeyId ∨ existing.requestId ≠ some requestId ∨
      (ownerSessionId.any fun value => existing.ownerSessionId != some value) ∨
      (nodeId.any fun value => existing.nodeId != some value) then
    .error (.corrupt "intent 与 key/request/owner 身份不匹配")
  else .ok ()

def verifyCreateReplay (existingId : Uuid) (existing : LedgerRow) (command : CreateBudgetIntent) :
    Except BudgetStoreError Unit := do
  if existingId ≠ command.intentId then
    throw (.corrupt "intent request ID 与 intent ID 不匹配")
  verifyIntentIdentity existing command.virtualKeyId command.requestId
    (some command.ownerSessionId) (some command.nodeId)
  if existing.operationId ≠ command.operationId ∨
      existing.commandFingerprint.map trimmed ≠ some command.commandFingerprint ∨
      existing.pricingFingerprint.map trimmed ≠ some command.pricingFingerprint then
    throw (.corrupt "intent request ID 的幂等载荷冲突")

def verifySettleIdentity (existing : LedgerRow) (command : SettleBudgetIntent) :
    Except BudgetStoreError Unit := do
  verifyIntentIdentity existing command.virtualKeyId command.requestId none none
  if existing.pricingFingerprint.map trimmed ≠ some command.pricingFingerprint then
    throw (.corrupt "settlement pricing fingerprint 与 intent 不一致")

def sameTerminalCommand (existing : LedgerRow) (command : SettleBudgetIntent) : Bool :=
  existing.terminalOperationId == some command.operationId &&
    existing.terminalCommandFingerprint.map trimmed == some command.commandFingerprint

def terminalDisposition (existing : LedgerRow) (command : SettleBudgetIntent) :
    Except BudgetStoreError BudgetSettlementDisposition :=
  match existing.status with
  | .settled =>
    if sameTerminalCommand existing command = false then
      .error (.corrupt "settlement operation 的幂等载荷冲突")
    else .ok .replayed
  | .resolved => .ok .alreadyReconciled
  | _ => .error (.corrupt "key 删除后仅允许 terminal intent 重放")

/-! ## Validation of commands -/

def validateRequestId (value : String) : Except BudgetStoreError Unit :=
  if Text.len value ≠ 32 ∨ isLowerHex value = false then
    .error (.corrupt "request ID 必须是 32 位小写十六进制")
  else .ok ()

def validateOperationId (value expected field : String) : Except BudgetStoreError Unit :=
  if 128 < Text.len value ∨ value ≠ expected then
    .error (.corrupt (field ++ " 不符合固定幂等 ID 规则"))
  else .ok ()

variable (reasons : List String)

def validateReasons (reasons : List String) : Except BudgetStoreError Unit :=
  if 32 < reasons.length ∨
      (reasons.any fun reason => trimmed reason == "" || 128 < Text.len reason) then
    .error (.corrupt "cost reasons 数量或长度超出限制")
  else .ok ()

def validateOwnerDuration (duration : Nat) : Except BudgetStoreError Unit := do
  validatePositiveDuration duration "owner/stale duration"
  if asSecs duration = 0 then
    throw (.corrupt "owner/stale duration 不能小于 1 秒")
  if 7 * 24 * 60 * 60 * 1000000000 < duration then
    throw (.corrupt "owner/stale duration 不能超过 7 天")

def pricingUnavailable (message : String) : BudgetStoreError := .new .pricingUnavailable message

def validatePrice (price : BudgetUnitPriceSnapshot) : Except BudgetStoreError Unit := do
  if (normalizeBudgetAmount price.usdPerMillion).isOk = false then
    throw (pricingUnavailable "pricing snapshot 金额非法")
  if trimmed price.source = "" ∨ 256 < Text.len price.source ∨ trimmed price.version = "" ∨
      256 < Text.len price.version ∨ price.effectiveTo.any (· ≤ price.effectiveFrom) then
    throw (pricingUnavailable "pricing snapshot 的来源、版本或生效时间非法")

def validatePricingSnapshot (snapshot : BudgetPricingSnapshot) : Except BudgetStoreError Unit := do
  if trimmed snapshot.providerType = "" ∨ 64 < Text.len snapshot.providerType ∨
      trimmed snapshot.model = "" ∨ 256 < Text.len snapshot.model ∨
      snapshot.maxPromptTokens.any (· ≤ 0) then
    throw (pricingUnavailable "pricing snapshot 的 provider/model/条件非法")
  snapshot.input.elim (pure ()) validatePrice
  snapshot.output.elim (pure ()) validatePrice

def validateCreateCommand (command : CreateBudgetIntent) : Except BudgetStoreError Unit := do
  validateRequestId command.requestId
  validateOperationId command.operationId ("intent:v1:" ++ command.requestId) "intent operation"
  validateFingerprint command.commandFingerprint "intent command fingerprint"
  validateFingerprint command.pricingFingerprint "pricing fingerprint"
  validateOwnerDuration command.staleAfter
  validatePricingSnapshot command.pricingSnapshot
  if command.pricingSnapshot.schemaVersion ≠ BUDGET_SCHEMA_VERSION then
    throw (pricingUnavailable "pricing snapshot schema version 不受支持")

def validateDispatchCommand (command : MarkBudgetDispatching) : Except BudgetStoreError Unit := do
  validateRequestId command.requestId
  validateOperationId command.operationId ("budget-dispatch:v1:" ++ command.requestId)
    "dispatch operation"

def validateSettleCommand (command : SettleBudgetIntent) : Except BudgetStoreError Unit := do
  validateRequestId command.requestId
  validateOperationId command.operationId ("budget-settle:v1:" ++ command.requestId)
    "settlement operation"
  validateFingerprint command.commandFingerprint "settlement command fingerprint"
  validateFingerprint command.pricingFingerprint "pricing fingerprint"
  validateReasons command.cost.reasons

def validateCheckpointCommand (command : CheckpointBudgetAccount) : Except BudgetStoreError Unit :=
  if trimmed command.operationId = "" ∨ 128 < Text.len command.operationId then
    .error (.corrupt "checkpoint operation ID 长度必须在 1..=128")
  else .ok ()

/-- The amount a cost outcome charges. -/
def normalizeCost (cost : BudgetCostOutcome) : Except BudgetStoreError (Option Usd) :=
  match cost.status with
  | .calculated | .estimated =>
    match cost.amountUsd with
    | none => .error (.corrupt "可计费 cost 缺少金额")
    | some amount => ((normalizeBudgetAmount amount).map some).mapError .corrupt
  | .notIncurred =>
    if cost.amountUsd.any (·.mantissa != 0) then
      .error (.corrupt "not_incurred cost 必须为空或 0")
    else .ok (some .zero)
  | .unavailable =>
    match cost.amountUsd with
    | none => .ok none
    | some amount => ((normalizeBudgetAmount amount).map some).mapError .corrupt

def nonemptyUnavailableReasons (reasons : List String) : List String :=
  if reasons.isEmpty then ["cost_unavailable"] else reasons

/-! ## Configuration and owners -/

def durationAsPgMillis (duration : Nat) : Except BudgetStoreError String :=
  let millis := asMillis duration
  if Machine.WORD ≤ millis then .error (.corrupt "数据库 timeout 过大")
  else if millis = 0 then .error (.corrupt "数据库 timeout 不能小于 1ms")
  else .ok (toString millis ++ "ms")

variable (store : PgBudgetStore)

def beginWrite (store : PgBudgetStore) : Tx Unit := do
  let _ ← lift (durationAsPgMillis store.config.statementTimeout)
  let _ ← lift (durationAsPgMillis store.config.lockTimeout)

/-- The hard tail of the deployment, when this node is configured like it. -/
def loadAuthoritativeHardTail (store : PgBudgetStore) : Tx Nat := do
  let db ← get
  let row ← okOr (db.runtimeSettings.lookup store.config.deploymentNamespace)
    (.unavailable "预算 owner 尚未注册权威 runtime settings")
  ensure (row.checkpointHardTailEvents = store.config.checkpointHardTailEvents ∧
      trimmed row.configFingerprint = store.config.configFingerprint)
    (.unavailable "本节点预算配置与 deployment 权威配置不一致")
  return row.checkpointHardTailEvents

def OwnerRow.live (row : OwnerRow) (now : Nat) : Bool := now < row.expiresAt && row.stoppedAt.isNone

def ownerIsLive (store : PgBudgetStore) (sessionId nodeId : Uuid) (now : Nat) : Tx Bool := do
  let db ← get
  return (db.ownerSessions.lookup sessionId).any fun row =>
    row.deploymentNamespace == store.config.deploymentNamespace && row.nodeId == nodeId &&
      row.live now

def inspectAccount (account : BudgetAccountSnapshot) (hardTail : Nat) :
    Except BudgetStoreError BudgetInspection := do
  validateAccountInvariants account
  if 0 < account.unresolvedCount then
    throw (.new .accountingUnresolved "预算账户存在未解决账务")
  if hardTail ≤ account.checkpointTailEvents then
    throw (.unavailable "预算账户 checkpoint tail 已达到权威上限")
  match account.limitUsd with
  | none =>
    if 0 < account.pendingCount then
      throw (.new .accountingUnresolved "暂停预算的账户仍存在 pending intent")
    return ⟨.paused, account⟩
  | some limit =>
    if limit.units ≤ account.usedUsd.units then return ⟨.exhausted, account⟩
    return ⟨.eligible, account⟩

/-- `BudgetStore::inspect`. -/
def inspect (store : PgBudgetStore) (virtualKeyId : Uuid) : Tx BudgetInspection := do
  beginWrite store
  let hardTail ← loadAuthoritativeHardTail store
  let row ← okOr (← lockAccount virtualKeyId) (.corrupt "预算账户不存在")
  lift (inspectAccount (row.intoSnapshot virtualKeyId) hardTail)

/-! ## Digests -/

/-- What the store relies on: digests are hexadecimal, and a normal form is blank only for a blank
text. -/
structure External.Standard (libs : External) : Prop where
  digest : ∀ text, (libs.sha256Hex text).length = 64 ∧ isLowerHex (libs.sha256Hex text)
  nfcEmpty : libs.nfc "" = ""
  nfcBlank : ∀ text, btrim (libs.nfc text) = "" → btrim text = ""

theorem len_of_isLowerHex {s : String} (h : isLowerHex s) : Text.len s = s.length := by
  refine Text.len_of_ascii fun c hMem => ?_
  have hDigit := List.all_eq_true.mp h c hMem
  simp only [Bool.or_eq_true, Bool.and_eq_true, decide_eq_true_eq, Char.le_def] at hDigit
  have hSmall : c.val ≤ 0x7F := by
    rcases hDigit with ⟨-, hUpper⟩ | ⟨-, hUpper⟩ <;> exact UInt32.le_trans hUpper (by decide)
  simp [Char.utf8Size, hSmall]

end KongRust.Budget
