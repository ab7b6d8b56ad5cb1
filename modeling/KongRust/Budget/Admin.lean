import KongRust.Budget.Postgres

/-!
# Administration of the budget ledger

Reconciliation, account issues, verification and rebuild of `budget/admin.rs`, and the governance
of accounts of `budget/governance.rs`. A rebuild is two transactions: a scan of one snapshot, and
a later transaction that applies the scan if the account is still at the scanned revision.
-/

namespace KongRust.Budget

open Transaction

/-! ## Governance -/

def validateAccount (account : BudgetAccountSnapshot) : Except BudgetStoreError Unit :=
  if account.state ≠ expectedState account then .error (.corrupt "预算账户 state 与计数不一致")
  else .ok ()

/-- The account an administrator works on: it exists, is in scope and is consistent. -/
def lockScopedAccount (id : Uuid) (scope : BudgetAdminScope) : Tx BudgetAccountSnapshot := do
  let row ← okOr (← lockAccount id) notFound
  ensure (scope.contains row.wsId) notFound
  let account := row.intoSnapshot id
  lift (validateAccount account)
  return account

def validateCreateAccount (command : CreateBudgetAccount) : Except BudgetStoreError Unit := do
  if isNil command.virtualKeyId ∨ trimmed command.name = "" ∨ trimmed command.keyHash = "" ∨
      trimmed command.keyPrefix = "" then
    throw (.corrupt "Virtual Key create 命令缺少必要身份字段")
  if command.tpmLimit.any (· ≤ 0) then throw (.corrupt "tpm_limit 必须为正整数")
  if command.rpmLimit.any (· ≤ 0) then throw (.corrupt "rpm_limit 必须为正整数")
  match command.budgetLimitUsd with
  | none => return ()
  | some limit => let _ ← (normalizeBudgetAmount limit).mapError .corrupt

def normalizeOptionalAmount (amount : Option Decimal) : Except BudgetStoreError (Option Usd) :=
  match amount with
  | none => .ok none
  | some amount => ((normalizeBudgetAmount amount).map some).mapError .corrupt

def genesisOperation (virtualKeyId : Uuid) : String :=
  "budget-checkpoint-genesis:v1:" ++ uuidText virtualKeyId

/-- The row of a new account: nothing used, nothing open, revision zero. -/
def newAccountRow (command : CreateBudgetAccount) (budgetLimit : Option Usd) (now : Nat) :
    AccountRow where
  name := trimmed command.name
  keyHash := command.keyHash
  keyPrefix := command.keyPrefix
  consumerId := command.consumerId
  allowedModels := some (command.allowedModels.getD [])
  tpmLimit := command.tpmLimit
  rpmLimit := command.rpmLimit
  budgetLimit := budgetLimit
  budgetUsed := .zero
  budgetPendingCount := 0
  budgetUnresolvedCount := 0
  budgetAccountingRevision := 0
  budgetCheckpointTailEvents := 0
  budgetStateUpdatedAt := timestamptz3 now
  enabled := command.enabled
  expiresAt := command.expiresAt
  tags := command.tags
  wsId := some command.workspaceId
  updatedAt := now

def createAccount (store : PgBudgetStore) (command : CreateBudgetAccount) (now : Nat) :
    Tx BudgetAccountSnapshot := do
  lift (validateCreateAccount command)
  let budgetLimit ← lift (normalizeOptionalAmount command.budgetLimitUsd)
  beginWrite store
  let row := newAccountRow command budgetLimit now
  let db ← get
  ensure (db.virtualKeys.lookup command.virtualKeyId = none) (mapSqlxError .uniqueViolation)
  putAccount command.virtualKeyId row
  insertCheckpoint (command.virtualKeyId, 0)
    ⟨.zero, genesisOperation command.virtualKeyId, timestamptz3 now⟩
  let account := row.intoSnapshot command.virtualKeyId
  lift (validateAccount account)
  return account

/-- A column update: whether the column is written, and its new value. -/
def optionalMutation {α : Type} : BudgetOptionalMutation α → Option (Option α)
  | .unchanged => none
  | .set value => some (some value)
  | .clear => some none

def quotaMutation (mutation : BudgetOptionalMutation Int) (field : String) :
    Except BudgetStoreError (Option (Option Int)) :=
  match mutation with
  | .unchanged => .ok none
  | .set value =>
    if 0 < value then .ok (some (some value))
    else .error (.corrupt (field ++ " 必须为正整数"))
  | .clear => .ok (some none)

/-- An update whose provided columns are `some`. -/
structure NormalizedUpdateBudgetAccount where
  name : Option String
  consumerId : Option (Option Uuid)
  allowedModels : Option (Option (List String))
  tpmLimit : Option (Option Int)
  rpmLimit : Option (Option Int)
  budgetLimit : Option (Option Usd)
  budgetClear : Bool
  enabled : Option Bool
  expiresAt : Option (Option Nat)
  tags : Option (Option (List String))

def NormalizedUpdateBudgetAccount.hasChanges (update : NormalizedUpdateBudgetAccount) : Bool :=
  update.name.isSome || update.consumerId.isSome || update.allowedModels.isSome ||
    update.tpmLimit.isSome || update.rpmLimit.isSome || update.budgetLimit.isSome ||
    update.enabled.isSome || update.expiresAt.isSome || update.tags.isSome

def normalizeUpdateAccount (command : UpdateBudgetAccount) :
    Except BudgetStoreError NormalizedUpdateBudgetAccount := do
  if isNil command.virtualKeyId then
    throw (.corrupt "Virtual Key update 命令缺少 key ID")
  let name := command.name.map trimmed
  if name = some "" then
    throw (.corrupt "Virtual Key name 不能为空")
  let tpmLimit ← quotaMutation command.tpmLimit "tpm_limit"
  let rpmLimit ← quotaMutation command.rpmLimit "rpm_limit"
  let (budgetLimit, budgetClear) ← match command.budgetLimit with
    | .unchanged => pure (none, false)
    | .set limit => do
      let limit ← (normalizeBudgetAmount limit).mapError BudgetStoreError.corrupt
      pure (some (some limit), false)
    | .clear => pure (some none, true)
  return {
    name := name
    consumerId := optionalMutation command.consumerId
    allowedModels := optionalMutation command.allowedModels
    tpmLimit := tpmLimit
    rpmLimit := rpmLimit
    budgetLimit := budgetLimit
    budgetClear := budgetClear
    enabled := command.enabled
    expiresAt := optionalMutation command.expiresAt
    tags := optionalMutation command.tags
  }

/-- The columns an update provides, and the next revision. -/
def NormalizedUpdateBudgetAccount.apply (update : NormalizedUpdateBudgetAccount)
    (row : AccountRow) (newRevision now : Nat) : AccountRow :=
  { row with
    name := update.name.getD row.name
    consumerId := update.consumerId.getD row.consumerId
    allowedModels := update.allowedModels.getD row.allowedModels
    tpmLimit := update.tpmLimit.getD row.tpmLimit
    rpmLimit := update.rpmLimit.getD row.rpmLimit
    budgetLimit := update.budgetLimit.getD row.budgetLimit
    enabled := update.enabled.getD row.enabled
    expiresAt := update.expiresAt.getD row.expiresAt
    tags := update.tags.getD row.tags
    budgetAccountingRevision := newRevision
    budgetStateUpdatedAt := timestamptz3 now
    updatedAt := now }

def updateAccount (store : PgBudgetStore) (command : UpdateBudgetAccount) (now : Nat) :
    Tx BudgetAccountSnapshot := do
  let normalized ← lift (normalizeUpdateAccount command)
  beginWrite store
  let current ← lockScopedAccount command.virtualKeyId command.scope
  if normalized.hasChanges = false then return current
  else
    ensure (¬ (normalized.budgetClear ∧ (current.pendingCount ≠ 0 ∨ current.unresolvedCount ≠ 0)))
      (.new .reconciliationRequired "存在 pending/unresolved 账务，不能清空预算上限")
    let newRevision ← okOr (checkedAddI64 current.accountingRevision 1)
      (.corrupt "预算 revision 溢出")
    let updated ← updateAccountRow command.virtualKeyId
      (fun row => row.budgetAccountingRevision == current.accountingRevision)
      (fun row => some (normalized.apply row newRevision now))
    let updated ← okOr updated (.corrupt "预算 limit 更新时 revision 不一致")
    let account := updated.intoSnapshot command.virtualKeyId
    lift (validateAccount account)
    return account

def deleteAccount (store : PgBudgetStore) (command : DeleteBudgetAccount) (now : Nat) :
    Tx (BudgetAccountSnapshot × Nat) := do
  beginWrite store
  let account ← lockScopedAccount command.virtualKeyId command.scope
  ensure (account.pendingCount = 0 ∧ account.unresolvedCount = 0)
    (.new .reconciliationRequired "存在 pending/unresolved 账务，不能删除 Virtual Key")
  let db ← get
  set { db with virtualKeys := db.virtualKeys.erase command.virtualKeyId }
  return (account, now)

/-! ## Reconciliation -/

/-- A ledger row as the administration shows it. -/
structure BudgetLedgerEntry where
  id : Uuid
  row : LedgerRow

/-- `LedgerRow::into_entry`. -/
def LedgerRow.intoEntry (row : LedgerRow) (id : Uuid) :
    Except BudgetStoreError BudgetLedgerEntry :=
  if row.attemptNo ≠ 0 then .error (.corrupt "预算账本 revision/attempt 非法")
  else .ok ⟨id, { row with
    commandFingerprint := row.commandFingerprint.map trimmed
    terminalCommandFingerprint := row.terminalCommandFingerprint.map trimmed
    pricingFingerprint := row.pricingFingerprint.map trimmed }⟩

structure BudgetReconciliation where
  disposition : BudgetReconciliationDisposition
  account : BudgetAccountSnapshot
  intent : BudgetLedgerEntry
  auditEntry : BudgetLedgerEntry

inductive NormalizedResolution where
  | settle (amount : Usd)
  | waive

structure NormalizedReconciliation where
  virtualKeyId : Uuid
  intentId : Uuid
  scope : BudgetAdminScope
  operationId : String
  commandFingerprint : String
  actor : String
  reason : String
  resolution : NormalizedResolution

def NormalizedResolution.amount : NormalizedResolution → Usd
  | .settle amount => amount
  | .waive => .zero

/-- The row that holds an operation identifier; the column is unique. -/
def Db.ledgerByOperation (db : Db) (operationId : String) : Option (Uuid × LedgerRow) :=
  (db.ledger.entries.find? fun entry => entry.2.operationId == operationId).map
    fun entry => (entry.1, entry.2)

def loadLedgerByOperation (operationId : String) : Tx (Option (Uuid × LedgerRow)) := do
  let db ← get
  return db.ledgerByOperation operationId

def nextAdminRevision (account : BudgetAccountSnapshot) (tailEvents : Nat) :
    Except BudgetStoreError Nat :=
  match checkedAddI64 account.checkpointTailEvents tailEvents with
  | none => .error (.corrupt "预算 tail event count 溢出")
  | some _ =>
    match checkedAddI64 account.accountingRevision 1 with
    | none => .error (.corrupt "预算 revision 溢出")
    | some revision => .ok revision

section Admin

variable (libs : External) (store : PgBudgetStore)

def normalizeAuditText (value field : String) (enforceMax : Bool) :
    Except BudgetStoreError String :=
  let normalized := libs.nfc (trimmed value)
  if normalized = "" ∨ (enforceMax ∧ 1024 < Text.len normalized) then
    .error (.corrupt (field ++ " 必须为 1..=1024 bytes 的非空文本"))
  else .ok normalized

def normalizeReconciliation (command : ReconcileBudgetIntent) :
    Except BudgetStoreError NormalizedReconciliation := do
  if isNil command.virtualKeyId ∨ isNil command.intentId ∨ isNil command.operationId then
    throw (.corrupt "reconciliation 命令 ID 不能为空")
  let reason ← normalizeAuditText libs command.reason "reason" true
  let actor ← normalizeAuditText libs command.actor "actor" false
  let resolution ← match command.resolution with
    | .settle costUsd =>
      ((normalizeBudgetAmount costUsd).map NormalizedResolution.settle).mapError
        BudgetStoreError.corrupt
    | .waive => pure .waive
  let (resolutionName, amount) := match resolution with
    | .settle amount => ("settle", JsonValue.string amount.toText)
    | .waive => ("waive", JsonValue.null)
  return {
    virtualKeyId := command.virtualKeyId
    intentId := command.intentId
    scope := command.scope
    operationId := "budget-reconcile:v1:" ++ uuidText command.operationId
    commandFingerprint := libs.sha256Hex (libs.jsonArray [.number BUDGET_SCHEMA_VERSION,
      .string (uuidText command.virtualKeyId), .string (uuidText command.intentId),
      .string resolutionName, amount, .string reason, .string actor])
    actor := actor
    reason := reason
    resolution := resolution
  }

def validateReconciliationParent (parent : LedgerRow) (account : BudgetAccountSnapshot)
    (scope : BudgetAdminScope) : Except BudgetStoreError Unit :=
  if parent.kind ≠ .request ∨ parent.virtualKeyId ≠ account.virtualKeyId ∨
      scope.contains parent.workspaceId = false ∨
      parent.workspaceId.getD scope.defaultWorkspaceId ≠
        account.workspaceId.getD scope.defaultWorkspaceId then
    .error notFound
  else .ok ()

def validateReconciliationReplay (existing : LedgerRow) (command : NormalizedReconciliation) :
    Except BudgetStoreError BudgetReconciliationDisposition :=
  if existing.virtualKeyId ≠ command.virtualKeyId ∨
      existing.parentIntentId ≠ some command.intentId ∨
      existing.commandFingerprint.map trimmed ≠ some command.commandFingerprint then
    .error (.new .conflict "reconciliation operation ID 的幂等载荷冲突")
  else match existing.kind with
    | .reconciliation => .ok .replayed
    | .reconciliationAttempt => .ok .numericOverflowReplayed
    | _ => .error (.new .conflict "operation ID 已被其他预算操作占用")

def ownerIsStillLive (parent : LedgerRow) (now : Nat) : Tx Bool := do
  let ownerSessionId ← okOr parent.ownerSessionId (.corrupt "pending intent 缺少 owner session")
  let db ← get
  return (db.ownerSessions.lookup ownerSessionId).any (·.live now)

/-- The row of a reconciliation. -/
def reconciliationRow (command : NormalizedReconciliation) (account : BudgetAccountSnapshot)
    (newRevision now : Nat) : LedgerRow where
  virtualKeyId := command.virtualKeyId
  virtualKeyName := account.virtualKeyName
  virtualKeyPrefix := account.virtualKeyPrefix
  workspaceId := account.workspaceId
  kind := .reconciliation
  status := match command.resolution with
    | .settle _ => .settled
    | .waive => .waived
  operationId := command.operationId
  commandFingerprint := some command.commandFingerprint
  lastAccountRevision := newRevision
  parentIntentId := some command.intentId
  observedCostUsd := some command.resolution.amount
  accountedCostUsd := some command.resolution.amount
  costStatus := match command.resolution with
    | .settle _ => some .calculated
    | .waive => some .notIncurred
  resolutionReason := some command.reason
  resolutionActor := some command.actor
  createdAt := timestamptz3 now
  updatedAt := timestamptz3 now
  settledAt := some (timestamptz3 now)

/-- The part of `reconcile_pg` that charges the account. -/
def reconcileApplied (account : BudgetAccountSnapshot) (parent : LedgerRow)
    (command : NormalizedReconciliation) (childId : Uuid) (now : Nat) :
    Tx BudgetReconciliation := do
  let amount := command.resolution.amount
  let newRevision ← lift (nextAdminRevision account 2)
  ensureCounted parent.status account "pending intent 与预算账户 count 不一致"
    "unresolved intent 与预算账户 count 不一致"
  let updatedAccount ← updateAccountRow command.virtualKeyId
    (fun row => decide (0 < openCount parent.status row) &&
      row.budgetAccountingRevision == account.accountingRevision &&
      decide (row.budgetUsed.units ≤ MAX_BUDGET_UNITS - amount.units))
    (fun row => (row.budgetUsed.add? amount).map fun used =>
      { releaseCount parent.status row with
        budgetUsed := used
        budgetAccountingRevision := newRevision
        budgetCheckpointTailEvents := row.budgetCheckpointTailEvents + 2
        budgetStateUpdatedAt := timestamptz3 now
        updatedAt := now })
  let updatedAccount ← okOr updatedAccount
    (.corrupt "reconciliation 更新 aggregate/count 时状态不一致")
  let child := reconciliationRow command account newRevision now
  insertLedger libs childId child
  let updatedParent ← updateLedger libs command.intentId (fun row => row.status == parent.status)
    (fun row => { row with
      status := .resolved
      terminalOperationId := some command.operationId
      terminalCommandFingerprint := some command.commandFingerprint
      lastAccountRevision := newRevision
      resolutionReason := some command.reason
      resolutionActor := some command.actor
      resolutionEntryId := some childId
      updatedAt := timestamptz3 now
      resolvedAt := some (timestamptz3 now) })
  let updatedParent ← okOr updatedParent (.corrupt "reconciliation 更新父 intent 失败")
  let account := updatedAccount.intoSnapshot command.virtualKeyId
  lift (validateAccount account)
  let intent ← lift (updatedParent.intoEntry command.intentId)
  let auditEntry ← lift (child.intoEntry childId)
  return ⟨.applied, account, intent, auditEntry⟩

/-- The row of a reconciliation whose amount does not fit. -/
def attemptRow (command : NormalizedReconciliation) (account : BudgetAccountSnapshot)
    (amount : Usd) (newRevision now : Nat) : LedgerRow where
  virtualKeyId := account.virtualKeyId
  virtualKeyName := account.virtualKeyName
  virtualKeyPrefix := account.virtualKeyPrefix
  workspaceId := account.workspaceId
  kind := .reconciliationAttempt
  status := .resolved
  operationId := command.operationId
  commandFingerprint := some command.commandFingerprint
  lastAccountRevision := newRevision
  parentIntentId := some command.intentId
  observedCostUsd := some amount
  costStatus := some .unavailable
  costReasons := ["budget_numeric_overflow"]
  resolutionReason := some command.reason
  resolutionActor := some command.actor
  createdAt := timestamptz3 now
  updatedAt := timestamptz3 now
  resolvedAt := some (timestamptz3 now)

def applyReconciliationOverflow (account : BudgetAccountSnapshot) (parent : LedgerRow)
    (command : NormalizedReconciliation) (amount : Usd) (attemptId : Uuid) (now : Nat) :
    Tx BudgetReconciliation := do
  let newRevision ← lift (nextAdminRevision account 2)
  ensureCounted parent.status account "pending intent 与预算账户 count 不一致"
    "unresolved intent 与预算账户 count 不一致"
  let updatedAccount ← updateAccountRow account.virtualKeyId
    (fun row => decide (0 < openCount parent.status row) &&
      row.budgetAccountingRevision == account.accountingRevision)
    (fun row => some { suspendCount parent.status row with
      budgetAccountingRevision := newRevision
      budgetCheckpointTailEvents := row.budgetCheckpointTailEvents + 2
      budgetStateUpdatedAt := timestamptz3 now
      updatedAt := now })
  let updatedAccount ← okOr updatedAccount
    (.corrupt "overflow reconciliation 更新账户状态失败")
  let updatedParent ← updateLedger libs command.intentId (fun row => row.status == parent.status)
    (fun row => { row with
      status := .unresolved
      observedCostUsd := some amount
      accountedCostUsd := none
      costStatus := some .unavailable
      costReasons := ["budget_numeric_overflow"]
      lastAccountRevision := newRevision
      updatedAt := timestamptz3 now })
  let updatedParent ← okOr updatedParent (.corrupt "overflow reconciliation 更新父 intent 失败")
  let attempt := attemptRow command account amount newRevision now
  insertLedger libs attemptId attempt
  let account := updatedAccount.intoSnapshot account.virtualKeyId
  lift (validateAccount account)
  let intent ← lift (updatedParent.intoEntry command.intentId)
  let auditEntry ← lift (attempt.intoEntry attemptId)
  return ⟨.numericOverflow, account, intent, auditEntry⟩

def reconcile (command : ReconcileBudgetIntent) (childId : Uuid) (now : Nat) :
    Tx BudgetReconciliation := do
  let normalized ← lift (normalizeReconciliation libs command)
  beginWrite store
  let account ← lockScopedAccount normalized.virtualKeyId normalized.scope
  let parent ← okOr (← lockIntentById normalized.intentId) notFound
  lift (validateReconciliationParent parent account normalized.scope)
  match ← loadLedgerByOperation normalized.operationId with
  | some (existingId, existing) =>
    let disposition ← lift (validateReconciliationReplay existing normalized)
    let intent ← lift (parent.intoEntry normalized.intentId)
    let auditEntry ← lift (existing.intoEntry existingId)
    return ⟨disposition, account, intent, auditEntry⟩
  | none =>
    ensure (parent.status ≠ .resolved) (.new .alreadyReconciled "预算 intent 已被 reconciliation")
    ensure (parent.status = .pending ∨ parent.status = .unresolved)
      (.new .conflict "只有 pending/unresolved request intent 可以 reconciliation")
    if parent.status = .pending then
      ensure (¬ (← ownerIsStillLive parent now))
        (.new .intentActive "预算 intent 所属 owner 仍处于活动状态")
    let amount := normalized.resolution.amount
    match account.usedUsd.checkedAdd amount with
    | none => applyReconciliationOverflow libs account parent normalized amount childId now
    | some _ => reconcileApplied libs account parent normalized childId now

/-! ## Account issues -/

/-- Whether an account issue with this reason is open in the scope. -/
def Db.hasOpenIssue (db : Db) (virtualKeyId : Uuid) (scope : BudgetAdminScope) (reason : String) :
    Bool :=
  db.ledger.entries.any fun entry => entry.2.virtualKeyId == virtualKeyId &&
    entry.2.kind == .accountIssue && entry.2.status == .unresolved &&
    entry.2.costReasons.contains reason && scope.contains entry.2.workspaceId

/-- The row of an account issue found by a scan. -/
def scanIssueRow (virtualKeyId : Uuid) (account : BudgetAccountSnapshot) (reason : String)
    (newRevision now : Nat) : LedgerRow where
  virtualKeyId := virtualKeyId
  virtualKeyName := account.virtualKeyName
  virtualKeyPrefix := account.virtualKeyPrefix
  workspaceId := account.workspaceId
  kind := .accountIssue
  status := .unresolved
  operationId := "budget-account-issue:v1:" ++ uuidText virtualKeyId ++ ":" ++
    toString account.accountingRevision
  commandFingerprint := some (libs.sha256Hex (libs.jsonArray [.number BUDGET_SCHEMA_VERSION,
    .string (uuidText virtualKeyId), .number account.accountingRevision, .string reason]))
  lastAccountRevision := newRevision
  costStatus := some .unavailable
  costReasons := [reason]
  createdAt := timestamptz3 now
  updatedAt := timestamptz3 now

def recordAccountIssue (virtualKeyId : Uuid) (scope : BudgetAdminScope) (reason : String)
    (issueId : Uuid) (now : Nat) : Tx Unit := do
  beginWrite store
  let account ← lockScopedAccount virtualKeyId scope
  let db ← get
  if db.hasOpenIssue virtualKeyId scope reason then return ()
  else
    let newRevision ← lift (nextAdminRevision account 1)
    let _ ← okOr (checkedAddI64 account.unresolvedCount 1) (.corrupt "预算 unresolved count 溢出")
    insertLedger libs issueId (scanIssueRow libs virtualKeyId account reason newRevision now)
    let updated ← updateAccountRow virtualKeyId
      (fun row => row.budgetAccountingRevision == account.accountingRevision)
      (fun row => some { row with
        budgetUnresolvedCount := row.budgetUnresolvedCount + 1
        budgetAccountingRevision := newRevision
        budgetCheckpointTailEvents := row.budgetCheckpointTailEvents + 1
        budgetStateUpdatedAt := timestamptz3 now
        updatedAt := now })
    let _ ← okOr updated (.corrupt "account issue 更新账户 revision 失败")

/-! ## Verification and rebuild -/

structure NormalizedRebuildCommand where
  virtualKeyId : Uuid
  operationId : String
  checkpointOperationId : String
  commandFingerprint : String
  scope : BudgetAdminScope
  actor : String
  reason : String
  dryRun : Bool
  maxAttempts : Nat

def normalizeRebuildCommand (command : RebuildBudgetAccount) :
    Except BudgetStoreError NormalizedRebuildCommand := do
  if isNil command.virtualKeyId ∨ isNil command.operationId ∨ command.maxAttempts = 0 ∨
      8 < command.maxAttempts then
    throw (.corrupt "预算 rebuild 命令参数非法")
  let reason ← normalizeAuditText libs command.reason "reason" true
  let actor ← normalizeAuditText libs command.actor "actor" false
  return {
    virtualKeyId := command.virtualKeyId
    operationId := "budget-rebuild:v1:" ++ uuidText command.operationId
    checkpointOperationId := "budget-checkpoint-rebuild:v1:" ++ uuidText command.operationId
    commandFingerprint := libs.sha256Hex (libs.jsonArray [.number BUDGET_SCHEMA_VERSION,
      .string (uuidText command.virtualKeyId), .string "rebuild", .string reason, .string actor])
    scope := command.scope
    actor := actor
    reason := reason
    dryRun := command.dryRun
    maxAttempts := command.maxAttempts
  }

/-- What a scan found at one revision. -/
structure RebuildScan where
  account : BudgetAccountSnapshot
  checkpointRevision : Nat
  recomputedUsedUsd : Usd
  pendingCount : Nat
  unresolvedRequestCount : Nat
  openAccountIssueCount : Nat

structure BudgetRebuildComparison where
  snapshotRevision : Nat
  checkpointRevision : Nat
  storedUsedUsd : Usd
  recomputedUsedUsd : Usd
  differenceUnits : Int
  storedPendingCount : Nat
  recomputedPendingCount : Nat
  storedUnresolvedCount : Nat
  recomputedUnresolvedCount : Nat
  unresolvedRequestCount : Nat
  openAccountIssueCount : Nat
  isCurrent : Bool

def RebuildScan.recomputedUnresolvedCount (scan : RebuildScan) : Except BudgetStoreError Nat :=
  match checkedAddI64 scan.unresolvedRequestCount scan.openAccountIssueCount with
  | none => .error (.corrupt "预算 unresolved count 溢出")
  | some count => .ok count

def RebuildScan.comparison (scan : RebuildScan) (isCurrent : Bool) : BudgetRebuildComparison where
  snapshotRevision := scan.account.accountingRevision
  checkpointRevision := scan.checkpointRevision
  storedUsedUsd := scan.account.usedUsd
  recomputedUsedUsd := scan.recomputedUsedUsd
  differenceUnits := scan.recomputedUsedUsd.units - scan.account.usedUsd.units
  storedPendingCount := scan.account.pendingCount
  recomputedPendingCount := scan.pendingCount
  storedUnresolvedCount := scan.account.unresolvedCount
  recomputedUnresolvedCount :=
    (checkedAddI64 scan.unresolvedRequestCount scan.openAccountIssueCount).getD (BIGINT - 1)
  unresolvedRequestCount := scan.unresolvedRequestCount
  openAccountIssueCount := scan.openAccountIssueCount
  isCurrent := isCurrent

/-- `COUNT(*) FILTER (WHERE …)` over the rows of an account. -/
def Db.countRows (db : Db) (virtualKeyId : Uuid) (cond : LedgerRow → Bool) : Nat :=
  Table.total (fun row => if row.virtualKeyId = virtualKeyId ∧ cond row then 1 else 0) db.ledger

/-- `SUM(accounted_cost_usd) FILTER (WHERE …)` over the rows of an account. -/
def Db.sumCosts (db : Db) (virtualKeyId : Uuid) (cond : LedgerRow → Bool) : Nat :=
  Table.total (fun row =>
    if row.virtualKeyId = virtualKeyId ∧ cond row then
      (row.accountedCostUsd.map Usd.units).getD 0
    else 0) db.ledger

def isTail (checkpointRevision : Nat) (row : LedgerRow) : Bool :=
  row.status == .settled && decide (checkpointRevision < row.lastAccountRevision)

def isOpen (row : LedgerRow) : Bool := row.status == .pending || row.status == .unresolved

/-- A row that the scan may count: not newer than the account, and of the workspace. -/
def inScope (scope : BudgetAdminScope) (revision : Nat) (row : LedgerRow) : Bool :=
  decide (row.lastAccountRevision ≤ revision) && scope.contains row.workspaceId

def isForeign (scope : BudgetAdminScope) (revision : Nat) (row : LedgerRow) : Bool :=
  decide (row.lastAccountRevision ≤ revision) && !scope.contains row.workspaceId

def isFuture (revision : Nat) (row : LedgerRow) : Bool :=
  decide (revision < row.lastAccountRevision)

def databaseNumericToBudgetAmount (sum : Nat) : Except BudgetStoreError Usd :=
  if h : sum < NUMERIC_BOUND then .ok ⟨sum, h⟩
  else .error (.new .numericOverflow "预算账本合计超出 NUMERIC(28,12) 范围")

def scanRebuildSnapshot (virtualKeyId : Uuid) (scope : BudgetAdminScope) : Tx RebuildScan := do
  beginWrite store
  let account ← lockScopedAccount virtualKeyId scope
  let db ← get
  let revision := account.accountingRevision
  let (checkpointRevision, checkpoint) ← okOr (db.latestCheckpointUpTo virtualKeyId revision)
    (.corrupt "预算账户缺少有效 checkpoint")
  let tail (cond : LedgerRow → Bool) (row : LedgerRow) : Bool :=
    isTail checkpointRevision row && cond row
  let opened (cond : LedgerRow → Bool) (row : LedgerRow) : Bool := isOpen row && cond row
  let tailUsed := db.sumCosts virtualKeyId (tail (inScope scope revision))
  let pendingCount := db.countRows virtualKeyId
    (opened fun row => row.status == .pending && inScope scope revision row)
  let unresolvedRequestCount := db.countRows virtualKeyId
    (opened fun row =>
      row.kind == .request && row.status == .unresolved && inScope scope revision row)
  let openAccountIssueCount := db.countRows virtualKeyId
    (opened fun row =>
      row.kind == .accountIssue && row.status == .unresolved && inScope scope revision row)
  ensure (db.countRows virtualKeyId (tail (isForeign scope revision)) = 0 ∧
      db.countRows virtualKeyId (tail (isFuture revision)) = 0 ∧
      db.countRows virtualKeyId (opened (isForeign scope revision)) = 0 ∧
      db.countRows virtualKeyId (opened (isFuture revision)) = 0)
    (.corrupt "预算账本 workspace/count invariant 损坏")
  let tailAmount ← lift (databaseNumericToBudgetAmount tailUsed)
  let recomputedUsedUsd ← okOr (checkpoint.accountedCostUsd.checkedAdd tailAmount)
    (.new .numericOverflow "rebuild 合计超出 NUMERIC(28,12) 范围")
  return ⟨account, checkpointRevision, recomputedUsedUsd, pendingCount, unresolvedRequestCount,
    openAccountIssueCount⟩

inductive BudgetRebuildDisposition where
  | verified
  | rebuilt
  | replayed

structure BudgetRebuildResult where
  disposition : BudgetRebuildDisposition
  account : BudgetAccountSnapshot
  comparison : BudgetRebuildComparison
  auditEntry : Option BudgetLedgerEntry

inductive RebuildApplyOutcome where
  | applied (result : BudgetRebuildResult)
  | replayed (result : BudgetRebuildResult)
  | revisionChanged

variable (command : NormalizedRebuildCommand)

/-- The audit row of a rebuild. -/
def rebuildAuditRow (command : NormalizedRebuildCommand) (current : BudgetAccountSnapshot)
    (scan : RebuildScan) (newRevision now : Nat) : LedgerRow where
  virtualKeyId := command.virtualKeyId
  virtualKeyName := current.virtualKeyName
  virtualKeyPrefix := current.virtualKeyPrefix
  workspaceId := current.workspaceId
  kind := .rebuildAudit
  status := .resolved
  operationId := command.operationId
  commandFingerprint := some command.commandFingerprint
  lastAccountRevision := newRevision
  observedCostUsd := some current.usedUsd
  accountedCostUsd := some scan.recomputedUsedUsd
  costStatus := some .calculated
  resolutionReason := some command.reason
  resolutionActor := some command.actor
  createdAt := timestamptz3 now
  updatedAt := timestamptz3 now
  resolvedAt := some (timestamptz3 now)

def closesIssue (command : NormalizedRebuildCommand) (revision : Nat) (row : LedgerRow) : Bool :=
  row.virtualKeyId == command.virtualKeyId && row.kind == .accountIssue &&
    row.status == .unresolved && decide (row.lastAccountRevision ≤ revision) &&
    command.scope.contains row.workspaceId

/-- A closed account issue. -/
def closedIssue (command : NormalizedRebuildCommand) (auditId : Uuid) (newRevision now : Nat)
    (row : LedgerRow) : LedgerRow :=
  { row with
    status := .resolved
    lastAccountRevision := newRevision
    resolutionReason := some command.reason
    resolutionActor := some command.actor
    resolutionEntryId := some auditId
    updatedAt := timestamptz3 now
    resolvedAt := some (timestamptz3 now) }

/-- The part of `apply_rebuild_snapshot` that writes. -/
def rebuildApplied (command : NormalizedRebuildCommand) (scan : RebuildScan)
    (current : BudgetAccountSnapshot) (auditId : Uuid) (now : Nat) : Tx RebuildApplyOutcome := do
  let recomputedUnresolvedCount ← lift scan.recomputedUnresolvedCount
  let newRevision ← lift (nextAdminRevision current 1)
  let audit := rebuildAuditRow command current scan newRevision now
  insertLedger libs auditId audit
  let resolvedIssues ← updateLedgerWhere libs (closesIssue command scan.account.accountingRevision)
    (closedIssue command auditId newRevision now)
  ensure (resolvedIssues = scan.openAccountIssueCount)
    (.corrupt "rebuild 关闭 account issue 的数量发生变化")
  insertCheckpoint (command.virtualKeyId, newRevision)
    ⟨scan.recomputedUsedUsd, command.checkpointOperationId, timestamptz3 now⟩
  let updated ← updateAccountRow command.virtualKeyId
    (fun row => row.budgetAccountingRevision == scan.account.accountingRevision)
    (fun row => some { row with
      budgetUsed := scan.recomputedUsedUsd
      budgetPendingCount := scan.pendingCount
      budgetUnresolvedCount := scan.unresolvedRequestCount
      budgetAccountingRevision := newRevision
      budgetCheckpointTailEvents := 0
      budgetStateUpdatedAt := timestamptz3 now
      updatedAt := now })
  let updated ← okOr updated (.corrupt "rebuild CAS 提交失败")
  let account := updated.intoSnapshot command.virtualKeyId
  lift (validateAccount account)
  let auditEntry ← lift (audit.intoEntry auditId)
  return .applied ⟨.rebuilt, account,
    { scan.comparison true with recomputedUnresolvedCount := recomputedUnresolvedCount },
    some auditEntry⟩

def applyRebuildSnapshot (command : NormalizedRebuildCommand) (scan : RebuildScan)
    (auditId : Uuid) (now : Nat) : Tx RebuildApplyOutcome := do
  beginWrite store
  let current ← lockScopedAccount command.virtualKeyId command.scope
  match ← loadLedgerByOperation command.operationId with
  | some (existingId, existing) =>
    ensure (existing.virtualKeyId = command.virtualKeyId ∧ existing.kind = .rebuildAudit ∧
        existing.commandFingerprint.map trimmed = some command.commandFingerprint)
      (.new .conflict "rebuild operation ID 的幂等载荷冲突")
    let comparison := scan.comparison
      (current.accountingRevision == scan.account.accountingRevision)
    let auditEntry ← lift (existing.intoEntry existingId)
    return .replayed ⟨.replayed, current, comparison, some auditEntry⟩
  | none =>
    if current.accountingRevision ≠ scan.account.accountingRevision then return .revisionChanged
    else
      ensure (current.workspaceId = scan.account.workspaceId)
        (.corrupt "rebuild 扫描与提交的 workspace 不一致")
      rebuildApplied libs command scan current auditId now

end Admin

end KongRust.Budget
