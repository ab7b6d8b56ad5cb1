import KongRust.Budget.Checks

/-!
# The PostgreSQL budget store

The transactions of `budget/postgres.rs`, each a `Tx`: what it reads and writes, the order of its
checks, and the error it raises at each of them. Identifiers drawn during a transaction are
arguments.
-/

namespace KongRust.Budget

open Transaction

section Store

variable (libs : External) (store : PgBudgetStore)

/-! ## Creating and dispatching an intent -/

def pricingSerializable (snapshot : BudgetPricingSnapshot) : Bool :=
  [snapshot.input, snapshot.output].all fun price =>
    price.all fun price => (normalizeBudgetAmount price.usdPerMillion).isOk

/-- `INSERT … ON CONFLICT (request_id) DO NOTHING`; whether the row was inserted. -/
def insertIntent (id : Uuid) (row : LedgerRow) : Tx Bool := do
  let db ← get
  if db.ledger.entries.any fun entry => row.requestId.isSome && row.requestId == entry.2.requestId
  then return false
  else
    insertLedger libs id row
    return true

variable (command : CreateBudgetIntent)

/-- The row of a new intent. -/
def preparedRow (command : CreateBudgetIntent) (account : BudgetAccountSnapshot)
    (revision now : Nat) : LedgerRow where
  virtualKeyId := command.virtualKeyId
  virtualKeyName := account.virtualKeyName
  virtualKeyPrefix := account.virtualKeyPrefix
  workspaceId := account.workspaceId
  kind := .request
  status := .pending
  requestId := some command.requestId
  operationId := command.operationId
  commandFingerprint := some command.commandFingerprint
  lastAccountRevision := revision
  pricingFingerprint := some command.pricingFingerprint
  pricingSnapshot := some command.pricingSnapshot
  dispatchState := some .prepared
  nodeId := some command.nodeId
  ownerSessionId := some command.ownerSessionId
  staleNotBefore := some (timestamptz3 (now + asSecs command.staleAfter * 1000000))
  createdAt := timestamptz3 now
  updatedAt := timestamptz3 now

def createReplayed (command : CreateBudgetIntent) (id : Uuid) (existing : LedgerRow)
    (account : BudgetAccountSnapshot) : Tx BudgetIntent := do
  lift (verifyCreateReplay id existing command)
  let record ← lift (existing.intoRecord id)
  return ⟨.createReplayed, some record, some account⟩

/-- The part of `create_intent` that runs for an eligible account. -/
def createEligible (command : CreateBudgetIntent) (account : BudgetAccountSnapshot)
    (hardTail now : Nat) : Tx BudgetIntent := do
  ensure (← ownerIsLive store command.ownerSessionId command.nodeId now)
    (.unavailable "预算 owner session 已被 fence")
  let newRevision ← okOr (checkedAddI64 account.accountingRevision 1)
    (.corrupt "预算 revision 溢出")
  let _ ← okOr (checkedAddI64 account.pendingCount 1) (.corrupt "预算 pending count 溢出")
  let _ ← okOr (checkedAddI64 account.checkpointTailEvents 1) (.corrupt "预算 tail count 溢出")
  let row := preparedRow command account newRevision now
  if ← insertIntent libs command.intentId row then
    let updated ← updateAccountRow command.virtualKeyId
      (fun current => current.budgetAccountingRevision == account.accountingRevision &&
        decide (current.budgetCheckpointTailEvents < hardTail))
      (fun current => some { current with
        budgetPendingCount := current.budgetPendingCount + 1
        budgetAccountingRevision := newRevision
        budgetCheckpointTailEvents := current.budgetCheckpointTailEvents + 1
        budgetStateUpdatedAt := timestamptz3 now })
    let updated ← okOr updated (.corrupt "intent 创建时账户 revision/tail 不一致")
    let record ← lift (row.intoRecord command.intentId)
    return ⟨.created, some record, some (updated.intoSnapshot command.virtualKeyId)⟩
  else
    let (id, existing) ← okOr (← lockIntentByRequest command.requestId)
      (.new .outcomeUnknown "intent conflict 后无法读取权威结果")
    createReplayed command id existing account

def createIntent (command : CreateBudgetIntent) (now : Nat) : Tx BudgetIntent := do
  lift (validateCreateCommand command)
  ensure (pricingSerializable command.pricingSnapshot)
    (pricingUnavailable "pricing snapshot 无法序列化")
  ensure (libs.pricingJsonBytes command.pricingSnapshot ≤ 4096)
    (pricingUnavailable "pricing snapshot 超过 4 KiB")
  beginWrite store
  let account ← loadLockedAccount command.virtualKeyId (.corrupt "预算账户不存在")
  match ← lockIntentByRequest command.requestId with
  | some (id, existing) => createReplayed command id existing account
  | none =>
    let hardTail ← loadAuthoritativeHardTail store
    let inspection ← lift (inspectAccount account hardTail)
    match inspection.eligibility with
    | .paused => return ⟨.paused, none, some inspection.account⟩
    | .exhausted => throw (.new .exhausted "预算已耗尽")
    | .eligible => createEligible libs store command inspection.account hardTail now

def markDispatching (command : MarkBudgetDispatching) (now : Nat) : Tx BudgetIntent := do
  lift (validateDispatchCommand command)
  beginWrite store
  let existing ← okOr (← lockIntentById command.intentId) (.corrupt "预算 intent 不存在")
  lift (verifyIntentIdentity existing command.virtualKeyId command.requestId
    (some command.ownerSessionId) (some command.nodeId))
  ensure (existing.status = .pending) (.corrupt "只有 pending intent 可以进入 dispatching")
  if existing.dispatchState = some .dispatching then
    ensure (existing.dispatchOperationId = some command.operationId)
      (.corrupt "dispatch operation 与已提交结果冲突")
    let record ← lift (existing.intoRecord command.intentId)
    return ⟨.dispatchReplayed, some record, none⟩
  else
    ensure (existing.dispatchState = some .prepared ∧ existing.dispatchOperationId = none)
      (.corrupt "prepared intent 的 dispatch 状态损坏")
    ensure (← ownerIsLive store command.ownerSessionId command.nodeId now)
      (.unavailable "预算 owner session 已被 fence")
    let updated ← updateLedger libs command.intentId
      (fun row => row.status == .pending && row.dispatchState == some .prepared &&
        row.dispatchOperationId.isNone)
      (fun row => { row with
        dispatchState := some .dispatching
        dispatchOperationId := some command.operationId
        updatedAt := timestamptz3 now })
    let updated ← okOr updated (.corrupt "dispatch transition 条件失效")
    let record ← lift (updated.intoRecord command.intentId)
    return ⟨.dispatchApplied, some record, none⟩

/-! ## Settling an intent -/

variable (status : BudgetLedgerStatus) (row : AccountRow)

/-- The account counter that an open row of this status is part of. -/
def openCount (status : BudgetLedgerStatus) (row : AccountRow) : Nat :=
  if status = .pending then row.budgetPendingCount else row.budgetUnresolvedCount

/-- Take one open row of this status out of the account's counters. -/
def releaseCount (status : BudgetLedgerStatus) (row : AccountRow) : AccountRow :=
  if status = .pending then { row with budgetPendingCount := row.budgetPendingCount - 1 }
  else { row with budgetUnresolvedCount := row.budgetUnresolvedCount - 1 }

def suspendCount (status : BudgetLedgerStatus) (row : AccountRow) : AccountRow :=
  if status = .pending then
    { row with
      budgetPendingCount := row.budgetPendingCount - 1
      budgetUnresolvedCount := row.budgetUnresolvedCount + 1 }
  else row

/-- The test that an open row is counted, before the update that takes it out. -/
def ensureCounted (status : BudgetLedgerStatus) (account : BudgetAccountSnapshot)
    (pendingMessage unresolvedMessage : String) : Tx Unit :=
  if status = .pending then ensure (0 < account.pendingCount) (.corrupt pendingMessage)
  else ensure (0 < account.unresolvedCount) (.corrupt unresolvedMessage)

/-- The largest amount (`max_budget_amount`), in units. -/
def MAX_BUDGET_UNITS : Nat := 9999999999999999999999999999

variable (account : BudgetAccountSnapshot)

def markUnresolved (account : BudgetAccountSnapshot) (existingId : Uuid) (existing : LedgerRow)
    (observedCost : Option Usd) (reasons : List String) (usageFactId : Option Uuid)
    (terminalCommand : Option (String × String)) (now : Nat) :
    Tx (BudgetAccountSnapshot × BudgetIntentRecord) := do
  let newRevision ← lift (checkedSettleRevision account)
  ensureCounted existing.status account "pending intent 与账户 pending count 不一致"
    "unresolved intent 与账户 unresolved count 不一致"
  let updatedAccount ← updateAccountRow account.virtualKeyId
    (fun row => decide (0 < openCount existing.status row) &&
      row.budgetAccountingRevision == account.accountingRevision)
    (fun row => some { suspendCount existing.status row with
      budgetAccountingRevision := newRevision
      budgetCheckpointTailEvents := row.budgetCheckpointTailEvents + 1
      budgetStateUpdatedAt := timestamptz3 now })
  let updatedAccount ← okOr updatedAccount (.corrupt "标记 unresolved 时账户状态不一致")
  let updatedIntent ← updateLedger libs existingId (fun row => row.status == existing.status)
    (fun row => { row with
      status := .unresolved
      observedCostUsd := observedCost
      accountedCostUsd := none
      costStatus := some .unavailable
      costReasons := reasons
      usageFactId := usageFactId
      lastAccountRevision := newRevision
      terminalOperationId := terminalCommand.map Prod.fst
      terminalCommandFingerprint := terminalCommand.map Prod.snd
      updatedAt := timestamptz3 now })
  let updatedIntent ← okOr updatedIntent (.corrupt "标记 unresolved 时 intent 状态不一致")
  let record ← lift (updatedIntent.intoRecord existingId)
  return (updatedAccount.intoSnapshot account.virtualKeyId, record)

/-- A terminal intent whose account was deleted can only be replayed. -/
def settleDeleted (command : SettleBudgetIntent) : Tx BudgetSettlement := do
  let existing ← okOr (← lockIntentById command.intentId) (.corrupt "预算账户和 intent 均不存在")
  lift (verifySettleIdentity existing command)
  let disposition ← lift (terminalDisposition existing command)
  let intent ← lift (existing.intoRecord command.intentId)
  return ⟨disposition, intent, none⟩

/-- The part of `settle` that charges the account. -/
def settleApplied (command : SettleBudgetIntent) (account : BudgetAccountSnapshot)
    (existing : LedgerRow) (amount : Usd) (now : Nat) : Tx BudgetSettlement := do
  let newRevision ← lift (checkedSettleRevision account)
  ensureCounted existing.status account "pending intent 与账户 pending count 不一致"
    "unresolved intent 与账户 unresolved count 不一致"
  let updatedAccount ← updateAccountRow command.virtualKeyId
    (fun row => decide (0 < openCount existing.status row) &&
      row.budgetAccountingRevision == account.accountingRevision &&
      decide (row.budgetUsed.units ≤ MAX_BUDGET_UNITS - amount.units))
    (fun row => (row.budgetUsed.add? amount).map fun used =>
      { releaseCount existing.status row with
        budgetUsed := used
        budgetAccountingRevision := newRevision
        budgetCheckpointTailEvents := row.budgetCheckpointTailEvents + 1
        budgetStateUpdatedAt := timestamptz3 now })
  let updatedAccount ← okOr updatedAccount
    (.corrupt "结算时账户 aggregate/count/revision 不一致")
  let updatedIntent ← updateLedger libs command.intentId (fun row => row.status == existing.status)
    (fun row => { row with
      status := .settled
      observedCostUsd := some amount
      accountedCostUsd := some amount
      costStatus := some command.cost.status
      costReasons := command.cost.reasons
      usageFactId := command.usageFactId
      terminalOperationId := some command.operationId
      terminalCommandFingerprint := some command.commandFingerprint
      lastAccountRevision := newRevision
      updatedAt := timestamptz3 now
      settledAt := some (timestamptz3 now) })
  let updatedIntent ← okOr updatedIntent (.corrupt "结算时 intent 状态发生冲突")
  let intent ← lift (updatedIntent.intoRecord command.intentId)
  return ⟨.applied, intent, some (updatedAccount.intoSnapshot command.virtualKeyId)⟩

def overflowReasons (reasons : List String) : List String :=
  if reasons.contains "budget_numeric_overflow" then reasons
  else reasons ++ ["budget_numeric_overflow"]

/-- The part of `settle` that runs for an open intent. -/
def settleOpen (command : SettleBudgetIntent) (account : BudgetAccountSnapshot)
    (existing : LedgerRow) (now : Nat) : Tx BudgetSettlement := do
  ensure (existing.status = .pending ∨ existing.status = .unresolved)
    (.corrupt "预算 intent 状态不支持结算")
  ensure (¬ (existing.dispatchState = some .prepared ∧ command.cost.status ≠ .notIncurred))
    (.corrupt "prepared intent 只能按 not_incurred 结算")
  let normalizedCost ← lift (normalizeCost command.cost)
  if command.cost.status = .unavailable then
    if existing.status = .unresolved then
      let intent ← lift (existing.intoRecord command.intentId)
      return ⟨.alreadyUnresolved, intent, some account⟩
    else
      let (account, intent) ← markUnresolved libs account command.intentId existing normalizedCost
        (nonemptyUnavailableReasons command.cost.reasons) command.usageFactId none now
      return ⟨.markedUnresolved, intent, some account⟩
  else
    let amount := normalizedCost.getD .zero
    match account.usedUsd.checkedAdd amount with
    | none =>
      let (account, intent) ← markUnresolved libs account command.intentId existing (some amount)
        (overflowReasons command.cost.reasons) command.usageFactId
        (some (command.operationId, command.commandFingerprint)) now
      return ⟨.markedUnresolved, intent, some account⟩
    | some _ => settleApplied libs command account existing amount now

def settle (command : SettleBudgetIntent) (now : Nat) : Tx BudgetSettlement := do
  lift (validateSettleCommand command)
  beginWrite store
  match ← lockAccount command.virtualKeyId with
  | none => settleDeleted command
  | some row =>
    let account := row.intoSnapshot command.virtualKeyId
    lift (validateAccountInvariants account)
    let existing ← okOr (← lockIntentById command.intentId) (.corrupt "预算 intent 不存在")
    lift (verifySettleIdentity existing command)
    if existing.status = .unresolved ∧
        (existing.terminalOperationId.isSome ∨ existing.terminalCommandFingerprint.isSome) then
      ensure (sameTerminalCommand existing command)
        (.corrupt "unresolved settlement operation 的幂等载荷冲突")
      let intent ← lift (existing.intoRecord command.intentId)
      return ⟨.alreadyUnresolved, intent, some account⟩
    else if existing.status = .settled ∨ existing.status = .resolved then
      let disposition ← lift (terminalDisposition existing command)
      let intent ← lift (existing.intoRecord command.intentId)
      return ⟨disposition, intent, some account⟩
    else settleOpen libs command account existing now

/-! ## Recovering the intents of dead owners -/

def settlementFingerprint (requestId : String) (virtualKeyId intentId : Uuid) (status : CostStatus)
    (amountUsd : Option Decimal) (reasons : List String) (usageFactId : Option Uuid) : String :=
  libs.sha256Hex ("budget-settle:v1\n" ++ requestId ++ "\n" ++ uuidText virtualKeyId ++ "\n" ++
    uuidText intentId ++ "\n" ++ status.asStr ++ "\n" ++ (amountUsd.map (·.toText)).getD "null" ++
    "\n" ++ Text.join "\x1f" reasons ++ "\n" ++ (usageFactId.map uuidText).getD "null")

/-- The part of `recover_stale_candidate` for an intent that was never dispatched. -/
def recoverPrepared (account : BudgetAccountSnapshot) (existingId : Uuid) (existing : LedgerRow)
    (now : Nat) : Tx RecoveredStaleIntent := do
  ensure (0 < account.pendingCount) (.corrupt "prepared stale intent 与账户 pending count 不一致")
  let newRevision ← lift (checkedNextRevision account)
  let requestId ← okOr existing.requestId (.corrupt "prepared stale intent 缺少 request ID")
  let reasons := ["stale_owner_before_dispatch"]
  let fingerprint := settlementFingerprint libs requestId existing.virtualKeyId existingId
    .notIncurred (some .ZERO) reasons none
  let updatedAccount ← updateAccountRow account.virtualKeyId
    (fun row => decide (0 < row.budgetPendingCount) &&
      row.budgetAccountingRevision == account.accountingRevision)
    (fun row => some { row with
      budgetPendingCount := row.budgetPendingCount - 1
      budgetAccountingRevision := newRevision
      budgetCheckpointTailEvents := row.budgetCheckpointTailEvents + 1
      budgetStateUpdatedAt := timestamptz3 now })
  let _ ← okOr updatedAccount (.corrupt "prepared stale recovery 的账户 CAS 失败")
  let updated ← updateLedger libs existingId
    (fun row => row.status == .pending && row.dispatchState == some .prepared)
    (fun row => { row with
      status := .settled
      observedCostUsd := some .zero
      accountedCostUsd := some .zero
      costStatus := some .notIncurred
      costReasons := reasons
      terminalOperationId := some ("budget-settle:v1:" ++ requestId)
      terminalCommandFingerprint := some fingerprint
      lastAccountRevision := newRevision
      updatedAt := timestamptz3 now
      settledAt := some (timestamptz3 now) })
  let _ ← okOr updated (.corrupt "prepared stale recovery 的 intent CAS 失败")
  return .settledNotIncurred

def recoverStaleCandidate (candidate : StaleIntentCandidate) (now : Nat) :
    Tx RecoveredStaleIntent := do
  beginWrite store
  let _ ← loadAuthoritativeHardTail store
  let account ← loadLockedAccount candidate.virtualKeyId (.corrupt "stale intent 的预算账户不存在")
  match ← lockIntentById candidate.intentId with
  | none => return .skipped
  | some existing =>
    if existing.virtualKeyId ≠ candidate.virtualKeyId ∨ existing.status ≠ .pending then
      return .skipped
    else
      let staleNotBefore ← okOr existing.staleNotBefore
        (.corrupt "stale pending intent 缺少 stale_not_before")
      if now < staleNotBefore then return .skipped
      else
        let db ← get
        let ownerSessionId ← okOr existing.ownerSessionId
          (.corrupt "stale intent 缺少 owner session")
        let owner ← okOr (db.ownerSessions.lookup ownerSessionId)
          (.corrupt "stale intent 的 owner session 不存在")
        if owner.deploymentNamespace ≠ store.config.deploymentNamespace ∨ owner.live now then
          return .skipped
        else
          match existing.dispatchState with
          | some .prepared => recoverPrepared libs account candidate.intentId existing now
          | some .dispatching =>
            let _ ← markUnresolved libs account candidate.intentId existing none
              ["stale_owner_after_dispatch"] none none now
            return .markedUnresolved
          | none => throw (.corrupt "stale pending intent 的 dispatch state 非法")

/-! ## Checkpoints -/

/-- `SUM` of the settled costs past a revision, up to another. -/
def Db.settledCost (db : Db) (virtualKeyId : Uuid) (after upTo : Nat) : Nat :=
  Table.total (fun row =>
    if row.virtualKeyId = virtualKeyId ∧ row.status = .settled ∧
        after < row.lastAccountRevision ∧ row.lastAccountRevision ≤ upTo then
      (row.accountedCostUsd.map Usd.units).getD 0
    else 0) db.ledger

/-- `COUNT` of the settled rows past a revision, up to another. -/
def Db.settledEvents (db : Db) (virtualKeyId : Uuid) (after upTo : Nat) : Nat :=
  Table.total (fun row =>
    if row.virtualKeyId = virtualKeyId ∧ row.status = .settled ∧
        after < row.lastAccountRevision ∧ row.lastAccountRevision ≤ upTo then 1
    else 0) db.ledger

/-- Read a `SUM` as a decimal; it may have outgrown the mantissa. -/
def decodeNumeric (sum : Nat) : Except SqlxError Decimal :=
  if h : sum < Decimal.MANTISSA then .ok ⟨sum, 12, by simpa using h, by decide⟩
  else .error .columnDecode

def CheckpointRow.intoCheckpoint (row : CheckpointRow) (virtualKeyId : Uuid) (revision : Nat) :
    BudgetCheckpoint :=
  ⟨virtualKeyId, revision, row.accountedCostUsd, row.createdAt⟩

variable (checkpointRevision : Nat)

/-- The row of an account issue found while checkpointing. -/
def checkpointIssueRow (account : BudgetAccountSnapshot) (checkpointRevision : Nat)
    (derivedUsed : Usd) (newRevision now : Nat) : LedgerRow where
  virtualKeyId := account.virtualKeyId
  virtualKeyName := account.virtualKeyName
  virtualKeyPrefix := account.virtualKeyPrefix
  workspaceId := account.workspaceId
  kind := .accountIssue
  status := .unresolved
  operationId := "budget-account-issue:v1:" ++ uuidText account.virtualKeyId ++ ":" ++
    toString account.accountingRevision
  commandFingerprint := some (libs.sha256Hex ("budget-account-issue:v1\n" ++
    uuidText account.virtualKeyId ++ "\n" ++ toString checkpointRevision ++ "\n" ++
    toString account.accountingRevision ++ "\n" ++ account.usedUsd.toText ++ "\n" ++
    derivedUsed.toText))
  lastAccountRevision := newRevision
  observedCostUsd := some derivedUsed
  costStatus := some .unavailable
  costReasons := ["checkpoint_amount_mismatch"]
  createdAt := timestamptz3 now
  updatedAt := timestamptz3 now

def recordCheckpointIssue (account : BudgetAccountSnapshot) (checkpointRevision : Nat)
    (derivedUsed : Usd) (issueId : Uuid) (now : Nat) : Tx Unit := do
  let db ← get
  if db.ledger.entries.any fun entry => entry.2.virtualKeyId == account.virtualKeyId &&
      entry.2.kind == .accountIssue && entry.2.status == .unresolved then
    return ()
  else
    let newRevision ← lift (checkedNextRevision account)
    insertLedger libs issueId
      (checkpointIssueRow libs account checkpointRevision derivedUsed newRevision now)
    let updated ← updateAccountRow account.virtualKeyId
      (fun row => row.budgetAccountingRevision == account.accountingRevision &&
        row.budgetCheckpointTailEvents == account.checkpointTailEvents)
      (fun row => some { row with
        budgetUnresolvedCount := row.budgetUnresolvedCount + 1
        budgetAccountingRevision := newRevision
        budgetCheckpointTailEvents := row.budgetCheckpointTailEvents + 1
        budgetStateUpdatedAt := timestamptz3 now })
    let _ ← okOr updated (.corrupt "记录 checkpoint account issue 的账户 CAS 失败")

/-- The error of a checkpoint that finds the account and its ledger apart. -/
def checkpointDrift : BudgetStoreError :=
  .new .accountingUnresolved "checkpoint 校验发现预算 aggregate 漂移"

/-- The part of `checkpoint_account` that recomputes the account. A drift is recorded, committed
and then reported, so it is an answer of the transaction and not a failure. -/
def checkpointTail (command : CheckpointBudgetAccount) (account : BudgetAccountSnapshot)
    (latestRevision : Nat) (latest : CheckpointRow) (issueId : Uuid) (now : Nat) :
    Tx (Except BudgetStoreError BudgetCheckpoint) := do
  let db ← get
  let settledEvents := db.settledEvents command.virtualKeyId latestRevision
    account.accountingRevision
  let sum ← sql (decodeNumeric (db.settledCost command.virtualKeyId latestRevision
    account.accountingRevision))
  ensure (settledEvents ≤ account.checkpointTailEvents)
    (.corrupt "checkpoint settled 事件数超过 tail counter")
  let settledCost ← lift ((normalizeBudgetAmount sum).mapError .corrupt)
  let derivedUsed ← okOr (latest.accountedCostUsd.checkedAdd settledCost)
    (.new .numericOverflow "checkpoint 累计金额溢出")
  if derivedUsed ≠ account.usedUsd then
    recordCheckpointIssue libs account latestRevision derivedUsed issueId now
    return .error checkpointDrift
  else
    let row : CheckpointRow := ⟨derivedUsed, command.operationId, timestamptz3 now⟩
    insertCheckpoint (command.virtualKeyId, account.accountingRevision) row
    let updated ← updateAccountRow command.virtualKeyId
      (fun row => row.budgetAccountingRevision == account.accountingRevision &&
        row.budgetCheckpointTailEvents == account.checkpointTailEvents)
      (fun row => some { row with
        budgetCheckpointTailEvents := 0
        budgetStateUpdatedAt := timestamptz3 now })
    let _ ← okOr updated (.corrupt "checkpoint 归零 tail 的 CAS 失败")
    return .ok (row.intoCheckpoint command.virtualKeyId account.accountingRevision)

def checkpointAccount (command : CheckpointBudgetAccount) (issueId : Uuid) (now : Nat) :
    Tx (Except BudgetStoreError BudgetCheckpoint) := do
  lift (validateCheckpointCommand command)
  beginWrite store
  let _ ← loadAuthoritativeHardTail store
  let account ← loadLockedAccount command.virtualKeyId (.corrupt "checkpoint 的预算账户不存在")
  let db ← get
  match db.checkpoints.entries.find? fun entry => entry.2.operationId == command.operationId with
  | some existing =>
    ensure (existing.1.1 = command.virtualKeyId)
      (.corrupt "checkpoint operation ID 与其他预算账户冲突")
    return .ok (existing.2.intoCheckpoint existing.1.1 existing.1.2)
  | none =>
    ensure (command.operationId = "budget-checkpoint:v1:" ++ uuidText command.virtualKeyId ++ ":" ++
        toString account.accountingRevision)
      (.corrupt "checkpoint operation ID 与当前账户 revision 不匹配")
    let (latestRevision, latest) ← okOr (db.latestCheckpoint command.virtualKeyId)
      (.corrupt "预算账户缺少 genesis checkpoint")
    ensure (latestRevision ≤ account.accountingRevision)
      (.corrupt "checkpoint revision 超前于预算账户 revision")
    if latestRevision = account.accountingRevision then
      ensure (account.checkpointTailEvents = 0)
        (.corrupt "checkpoint 已覆盖当前 revision 但 tail 未归零")
      return .ok (latest.intoCheckpoint command.virtualKeyId latestRevision)
    else checkpointTail libs command account latestRevision latest issueId now

/-! ## Owner sessions -/

def OwnerRow.intoLease (row : OwnerRow) (sessionId : Uuid) (replayed : Bool) : BudgetOwnerLease :=
  ⟨sessionId, row.nodeId, row.deploymentNamespace, row.startedAt, row.lastHeartbeatAt,
    row.expiresAt, replayed⟩

/-- Install the node's configuration, or take over a deployment without a live owner. -/
def adoptSettings (now : Nat) : Tx Unit := do
  let db ← get
  let namespaceName := store.config.deploymentNamespace
  let row : RuntimeSettingsRow := ⟨store.config.checkpointHardTailEvents,
    store.config.configFingerprint, timestamptz3 now⟩
  match db.runtimeSettings.lookup namespaceName with
  | none => putSettings namespaceName row
  | some settings =>
    if settings.checkpointHardTailEvents ≠ store.config.checkpointHardTailEvents ∨
        trimmed settings.configFingerprint ≠ store.config.configFingerprint then
      ensure (¬ (db.ownerSessions.entries.any fun entry =>
          entry.2.deploymentNamespace == namespaceName && entry.2.live now))
        (.unavailable "本节点预算配置与仍有 live owner 的 deployment 权威配置不一致")
      putSettings namespaceName row
    else return ()

def registerOwner (command : BudgetOwnerCommand) (now : Nat) : Tx BudgetOwnerLease := do
  lift (validateOwnerDuration command.leaseDuration)
  beginWrite store
  adoptSettings store now
  let db ← get
  match db.ownerSessions.lookup command.sessionId with
  | some existing =>
    ensure (existing.deploymentNamespace = store.config.deploymentNamespace ∧
        existing.nodeId = command.nodeId)
      (.corrupt "owner session ID 与已有 owner 冲突")
    ensure (existing.stoppedAt = none ∧ existing.live now)
      (.unavailable "owner session 已停止或过期，禁止复活")
    return existing.intoLease command.sessionId true
  | none =>
    let row : OwnerRow := {
      deploymentNamespace := store.config.deploymentNamespace
      nodeId := command.nodeId
      startedAt := timestamptz3 now
      lastHeartbeatAt := timestamptz3 now
      expiresAt := timestamptz3 (now + asSecs command.leaseDuration * 1000000)
      stoppedAt := none }
    putOwner command.sessionId row
    return row.intoLease command.sessionId false

/-- The session that a heartbeat or a stop of this node may write. -/
def Db.ownSession (db : Db) (sessionId nodeId : Uuid) : Option OwnerRow :=
  (db.ownerSessions.lookup sessionId).filter fun row =>
    row.deploymentNamespace == store.config.deploymentNamespace && row.nodeId == nodeId &&
      row.stoppedAt.isNone

def heartbeatOwner (command : BudgetOwnerCommand) (now : Nat) : Tx BudgetOwnerLease := do
  lift (validateOwnerDuration command.leaseDuration)
  beginWrite store
  let _ ← loadAuthoritativeHardTail store
  let db ← get
  let row ← okOr ((db.ownSession store command.sessionId command.nodeId).filter fun row =>
      decide (now < row.expiresAt))
    (.unavailable "owner session 已被 fence，heartbeat 被拒绝")
  let row := { row with
    lastHeartbeatAt := timestamptz3 now
    expiresAt := timestamptz3 (now + asSecs command.leaseDuration * 1000000) }
  putOwner command.sessionId row
  return row.intoLease command.sessionId false

def stopOwner (command : StopBudgetOwner) (now : Nat) : Tx Unit := do
  beginWrite store
  let db ← get
  match db.ownSession store command.sessionId command.nodeId with
  | some row => putOwner command.sessionId { row with stoppedAt := some (timestamptz3 now) }
  | none =>
    let existing ← okOr (db.ownerSessions.lookup command.sessionId)
      (.corrupt "owner session 不存在")
    ensure (existing.deploymentNamespace = store.config.deploymentNamespace ∧
        existing.nodeId = command.nodeId)
      (.corrupt "owner session ID 与 node/namespace 不匹配")
    ensure existing.stoppedAt.isSome (.unavailable "owner session 无法停止")

end Store

end KongRust.Budget
