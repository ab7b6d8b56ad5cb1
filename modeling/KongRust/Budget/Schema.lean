import Mathlib.Data.List.MinMax
import KongRust.Budget.Types
import KongRust.Foundation.Table
import KongRust.Foundation.Transaction

/-!
# Tables of the budget ledger

The tables that the core migrations create for the budget: virtual-key accounts, ledger,
checkpoints, owner sessions and runtime settings, each a finite map from its primary key to the
other columns. Every written row is checked against the constraints of its table; a violation
raises the database error that aborts the transaction.
-/

namespace KongRust.Budget

open Transaction

/-! ## Rows -/

inductive BudgetLedgerKind where
  | request
  | openingBalance
  | reconciliation
  | reconciliationAttempt
  | accountIssue
  | rebuildAudit
  deriving DecidableEq

inductive BudgetLedgerStatus where
  | pending
  | unresolved
  | settled
  | resolved
  | waived
  deriving DecidableEq

inductive DispatchState where
  | prepared
  | dispatching
  deriving DecidableEq

/-- A row of `ai_virtual_keys`, without its `id`. -/
structure AccountRow where
  name : String
  keyHash : String
  keyPrefix : String
  consumerId : Option Uuid
  allowedModels : Option (List String)
  tpmLimit : Option Int
  rpmLimit : Option Int
  budgetLimit : Option Usd
  budgetUsed : Usd
  budgetPendingCount : Nat
  budgetUnresolvedCount : Nat
  budgetAccountingRevision : Nat
  budgetCheckpointTailEvents : Nat
  budgetStateUpdatedAt : Nat
  enabled : Bool
  expiresAt : Option Nat
  tags : Option (List String)
  wsId : Option Uuid
  updatedAt : Nat
  deriving DecidableEq

/-- A row of `ai_budget_ledger`, without its `id`. -/
structure LedgerRow where
  virtualKeyId : Uuid
  virtualKeyName : String
  virtualKeyPrefix : String
  workspaceId : Option Uuid
  kind : BudgetLedgerKind
  status : BudgetLedgerStatus
  requestId : Option String := none
  operationId : String
  commandFingerprint : Option String := none
  dispatchOperationId : Option String := none
  terminalOperationId : Option String := none
  terminalCommandFingerprint : Option String := none
  lastAccountRevision : Nat
  parentIntentId : Option Uuid := none
  usageFactId : Option Uuid := none
  attemptNo : Nat := 0
  observedCostUsd : Option Usd := none
  accountedCostUsd : Option Usd := none
  costStatus : Option CostStatus := none
  costReasons : List String := []
  pricingFingerprint : Option String := none
  pricingSnapshot : Option BudgetPricingSnapshot := none
  dispatchState : Option DispatchState := none
  nodeId : Option Uuid := none
  ownerSessionId : Option Uuid := none
  staleNotBefore : Option Nat := none
  resolutionReason : Option String := none
  resolutionActor : Option String := none
  resolutionEntryId : Option Uuid := none
  createdAt : Nat
  updatedAt : Nat
  settledAt : Option Nat := none
  resolvedAt : Option Nat := none
  deriving DecidableEq

/-- A row of `ai_budget_checkpoints`, without its key and revision. -/
structure CheckpointRow where
  accountedCostUsd : Usd
  operationId : String
  createdAt : Nat
  deriving DecidableEq

/-- A row of `ai_budget_owner_sessions`, without its session. -/
structure OwnerRow where
  deploymentNamespace : String
  nodeId : Uuid
  startedAt : Nat
  lastHeartbeatAt : Nat
  expiresAt : Nat
  stoppedAt : Option Nat
  deriving DecidableEq

/-- A row of `ai_budget_runtime_settings`, without its namespace. -/
structure RuntimeSettingsRow where
  checkpointHardTailEvents : Nat
  configFingerprint : String
  updatedAt : Nat
  deriving DecidableEq

/-- The tables. `workspaces` and `consumers` are the keys that foreign keys may point to. -/
structure Db where
  virtualKeys : AList fun _ : Uuid => AccountRow
  ledger : AList fun _ : Uuid => LedgerRow
  checkpoints : AList fun _ : Uuid × Nat => CheckpointRow
  ownerSessions : AList fun _ : Uuid => OwnerRow
  runtimeSettings : AList fun _ : String => RuntimeSettingsRow
  workspaces : List Uuid
  consumers : List Uuid

/-- The generated column `budget_accounting_state`. -/
def AccountRow.budgetAccountingState (row : AccountRow) : BudgetAccountingState :=
  if 0 < row.budgetUnresolvedCount then .unresolved
  else if 0 < row.budgetPendingCount then .pending
  else .clean

/-! ## Constraints of the ledger -/

/-- The number of non-negative `BIGINT` values. -/
def BIGINT : Nat := 2 ^ 63

/-- `TIMESTAMPTZ(3)` keeps milliseconds. -/
def timestamptz3 (t : Nat) : Nat := (t + 500) / 1000 * 1000

/-- `btrim`, which removes blanks only. -/
def btrim (s : String) : String :=
  String.ofList (((s.toList.dropWhile (· == ' ')).reverse.dropWhile (· == ' ')).reverse)

def fingerprintFormat : Option String → Bool
  | none => true
  | some fingerprint => fingerprint.length == 64 && isLowerHex fingerprint

namespace LedgerRow

variable (row : LedgerRow)

def kindStatusValid (row : LedgerRow) : Bool :=
  match row.kind with
  | .request => row.status != .waived
  | .openingBalance => row.status == .settled
  | .reconciliation => row.status == .settled || row.status == .waived
  | .reconciliationAttempt => row.status == .resolved
  | .accountIssue => row.status == .unresolved || row.status == .resolved
  | .rebuildAudit => row.status == .resolved

/-- A null `request_id` makes the test of a request row unknown, which passes. -/
def requestIdFormat (row : LedgerRow) : Bool :=
  match row.kind, row.requestId with
  | .request, some requestId => requestId.length == 32 && isLowerHex requestId
  | .request, none => true
  | _, requestId => requestId.isNone

def requiredCommandFingerprint (row : LedgerRow) : Bool :=
  row.kind == .openingBalance || row.commandFingerprint.isSome

def requestDispatchFields (row : LedgerRow) : Bool :=
  if row.kind = .request then
    row.status != .pending ||
      (row.dispatchState.isSome && row.ownerSessionId.isSome && row.staleNotBefore.isSome)
  else
    row.dispatchState.isNone && row.dispatchOperationId.isNone && row.nodeId.isNone &&
      row.ownerSessionId.isNone && row.staleNotBefore.isNone

/-- What may be recorded about costs at each status. -/
def amountsConsistent (row : LedgerRow) : Bool :=
  match row.status with
  | .pending => row.observedCostUsd.isNone && row.accountedCostUsd.isNone
  | .unresolved => row.accountedCostUsd.isNone
  | .settled => row.accountedCostUsd.isSome
  | .resolved => true
  | .waived => row.accountedCostUsd.all fun cost => cost.units == 0

def parentConsistency (row : LedgerRow) : Bool :=
  match row.kind with
  | .reconciliation | .reconciliationAttempt => row.parentIntentId.isSome
  | _ => row.parentIntentId.isNone

def resolutionEntryConsistency (row : LedgerRow) : Bool :=
  if (row.kind = .request ∨ row.kind = .accountIssue) ∧ row.status = .resolved then
    row.resolutionEntryId.isSome
  else row.resolutionEntryId.isNone

/-- `ai_budget_ledger_request_terminal_consistency`, as the later migration restates it. -/
def requestTerminalConsistency (row : LedgerRow) : Bool :=
  let bothNull := row.terminalOperationId.isNone && row.terminalCommandFingerprint.isNone
  let bothSet := row.terminalOperationId.isSome && row.terminalCommandFingerprint.isSome
  if row.kind = .request then
    match row.status with
    | .settled | .resolved => bothSet
    | .pending => bothNull
    | .unresolved =>
      bothNull ||
        (bothSet && row.costStatus.all (· == .unavailable) &&
          row.costReasons.contains "budget_numeric_overflow")
    | .waived => false
  else bothNull

def resolutionReasonSize (row : LedgerRow) : Bool :=
  row.resolutionReason.all fun reason =>
    let bytes := Text.len (btrim reason)
    1 ≤ bytes && bytes ≤ 1024

def resolutionActorNonempty (row : LedgerRow) : Bool :=
  row.resolutionActor.all fun actor => btrim actor != ""

def reconciliationAuditFields (row : LedgerRow) : Bool :=
  match row.kind with
  | .reconciliation | .reconciliationAttempt | .rebuildAudit =>
    row.resolutionReason.isSome && row.resolutionActor.isSome
  | _ => true

def terminalTimeConsistency (row : LedgerRow) : Bool :=
  (row.status != .settled || row.settledAt.isSome) &&
    (row.status != .resolved || row.resolvedAt.isSome)

def pricingSnapshotSize (libs : External) (row : LedgerRow) : Bool :=
  row.pricingSnapshot.all fun snapshot => libs.pricingTextBytes snapshot ≤ 4096

/-- The `CHECK` constraints of `ai_budget_ledger`. Those on the values of an enumeration, of a
count and of an amount hold by the types of the columns. -/
def satisfiesChecks (libs : External) (row : LedgerRow) : Bool :=
  row.kindStatusValid && row.requestIdFormat && btrim row.operationId != "" &&
    fingerprintFormat row.commandFingerprint && fingerprintFormat row.terminalCommandFingerprint &&
    fingerprintFormat row.pricingFingerprint && row.requiredCommandFingerprint &&
    row.attemptNo == 0 && row.pricingSnapshotSize libs && row.requestDispatchFields &&
    row.amountsConsistent && row.parentConsistency && row.resolutionEntryConsistency &&
    row.requestTerminalConsistency && row.reconciliationAuditFields &&
    row.resolutionReasonSize && row.resolutionActorNonempty && row.terminalTimeConsistency

def fitsColumns (row : LedgerRow) : Bool :=
  row.requestId.all (·.length ≤ 32) && row.operationId.length ≤ 128 &&
    row.commandFingerprint.all (·.length ≤ 64) && row.dispatchOperationId.all (·.length ≤ 128) &&
    row.terminalOperationId.all (·.length ≤ 128) &&
    row.terminalCommandFingerprint.all (·.length ≤ 64) &&
    row.pricingFingerprint.all (·.length ≤ 64)

/-- Two rows that a `UNIQUE` column keeps apart. -/
def clashes (row other : LedgerRow) : Bool :=
  let same (a b : Option String) : Bool := a.isSome && a == b
  same row.requestId other.requestId || row.operationId == other.operationId ||
    same row.dispatchOperationId other.dispatchOperationId ||
    same row.terminalOperationId other.terminalOperationId

end LedgerRow

/-- Whether the ledger takes `row` as its row `id`. -/
def Db.acceptsLedger (libs : External) (db : Db) (id : Uuid) (row : LedgerRow) :
    Except SqlxError Unit :=
  if row.fitsColumns = false then .error .stringDataRightTruncation
  else if BIGINT ≤ row.lastAccountRevision then .error .numericValueOutOfRange
  else if row.satisfiesChecks libs = false then .error .checkViolation
  else if db.ledger.entries.any fun entry => entry.1 != id && row.clashes entry.2 then
    .error .uniqueViolation
  else if (row.parentIntentId.any fun parent => (db.ledger.lookup parent).isNone) ||
      (row.resolutionEntryId.any fun entry => (db.ledger.lookup entry).isNone) then
    .error .foreignKeyViolation
  else .ok ()

/-! ## Constraints of the other tables -/

def quotaValid (limit : Option Int) : Bool :=
  limit.all fun value => 1 ≤ value && value ≤ 2147483647

variable (db : Db)

def Db.acceptsAccount (db : Db) (id : Uuid) (row : AccountRow) : Except SqlxError Unit :=
  if BIGINT ≤ row.budgetPendingCount ∨ BIGINT ≤ row.budgetUnresolvedCount ∨
      BIGINT ≤ row.budgetAccountingRevision ∨ BIGINT ≤ row.budgetCheckpointTailEvents then
    .error .numericValueOutOfRange
  else if quotaValid row.tpmLimit = false ∨ quotaValid row.rpmLimit = false then
    .error .checkViolation
  else if db.virtualKeys.entries.any fun entry =>
      entry.1 != id && (row.name == entry.2.name || row.keyHash == entry.2.keyHash) then
    .error .uniqueViolation
  else if (row.consumerId.any fun consumer => !db.consumers.contains consumer) ||
      (row.wsId.any fun workspace => !db.workspaces.contains workspace) then
    .error .foreignKeyViolation
  else .ok ()

def Db.acceptsCheckpoint (db : Db) (key : Uuid × Nat) (row : CheckpointRow) :
    Except SqlxError Unit :=
  if 128 < row.operationId.length then .error .stringDataRightTruncation
  else if BIGINT ≤ key.2 then .error .numericValueOutOfRange
  else if btrim row.operationId = "" then .error .checkViolation
  else if db.checkpoints.entries.any fun entry =>
      entry.1 == key || row.operationId == entry.2.operationId then
    .error .uniqueViolation
  else .ok ()

def Db.acceptsOwner (db : Db) (row : OwnerRow) : Except SqlxError Unit :=
  if row.lastHeartbeatAt < row.startedAt ∨ row.expiresAt ≤ row.lastHeartbeatAt ∨
      row.stoppedAt.any (· < row.startedAt) then
    .error .checkViolation
  else if (db.runtimeSettings.lookup row.deploymentNamespace).isNone then
    .error .foreignKeyViolation
  else .ok ()

variable (deploymentNamespace : String)

def acceptsSettings (deploymentNamespace : String) (row : RuntimeSettingsRow) :
    Except SqlxError Unit :=
  if BIGINT ≤ row.checkpointHardTailEvents then .error .numericValueOutOfRange
  else if btrim deploymentNamespace = "" ∨ row.checkpointHardTailEvents = 0 ∨
      fingerprintFormat (some row.configFingerprint) = false then
    .error .checkViolation
  else .ok ()

/-! ## Statements -/

abbrev Tx := Transaction Db BudgetStoreError

def sql {α : Type} (x : Except SqlxError α) : Tx α := lift (x.mapError mapSqlxError)

section Statements

variable (libs : External) (id : Uuid)

def putLedger (id : Uuid) (row : LedgerRow) : Tx Unit := do
  let db ← get
  sql (db.acceptsLedger libs id row)
  set { db with ledger := db.ledger.insert id row }

/-- `INSERT INTO ai_budget_ledger`. -/
def insertLedger (id : Uuid) (row : LedgerRow) : Tx Unit := do
  let db ← get
  ensure (db.ledger.lookup id = none) (mapSqlxError .uniqueViolation)
  putLedger libs id row

/-- `UPDATE ai_budget_ledger … WHERE id = $1 AND … RETURNING`. -/
def updateLedger (id : Uuid) (cond : LedgerRow → Bool) (change : LedgerRow → LedgerRow) :
    Tx (Option LedgerRow) := do
  let db ← get
  match (db.ledger.lookup id).filter cond with
  | none => return none
  | some row =>
    putLedger libs id (change row)
    return some (change row)

/-- `UPDATE ai_budget_ledger … WHERE …` over all rows; the number of rows changed. -/
def updateLedgerWhere (cond : LedgerRow → Bool) (change : LedgerRow → LedgerRow) : Tx Nat := do
  let db ← get
  let db' := { db with ledger := Table.update cond change db.ledger }
  sql (db.ledger.entries.forM fun entry =>
    if cond entry.2 then db'.acceptsLedger libs entry.1 (change entry.2) else .ok ())
  set db'
  return Table.total (fun row => if cond row then 1 else 0) db.ledger

end Statements

variable (id : Uuid)

/-- `SELECT … FROM ai_virtual_keys WHERE id = $1 FOR UPDATE`. -/
def lockAccount (id : Uuid) : Tx (Option AccountRow) := do
  let db ← get
  return db.virtualKeys.lookup id

def putAccount (id : Uuid) (row : AccountRow) : Tx Unit := do
  let db ← get
  sql (db.acceptsAccount id row)
  set { db with virtualKeys := db.virtualKeys.insert id row }

/-- `UPDATE ai_virtual_keys … WHERE id = $1 AND … RETURNING`; the new values may leave the range
of their columns. -/
def updateAccountRow (id : Uuid) (cond : AccountRow → Bool)
    (change : AccountRow → Option AccountRow) : Tx (Option AccountRow) := do
  let db ← get
  match (db.virtualKeys.lookup id).filter cond with
  | none => return none
  | some row =>
    let row' ← okOr (change row) (mapSqlxError .numericValueOutOfRange)
    putAccount id row'
    return some row'

/-- `INSERT INTO ai_budget_checkpoints`. -/
def insertCheckpoint (key : Uuid × Nat) (row : CheckpointRow) : Tx Unit := do
  let db ← get
  sql (db.acceptsCheckpoint key row)
  set { db with checkpoints := db.checkpoints.insert key row }

def Db.checkpointsOf (db : Db) (virtualKeyId : Uuid) : List (Nat × CheckpointRow) :=
  db.checkpoints.entries.filterMap fun entry =>
    if entry.1.1 = virtualKeyId then some (entry.1.2, entry.2) else none

/-- `ORDER BY checkpoint_revision DESC LIMIT 1`. -/
def Db.latestCheckpoint (db : Db) (virtualKeyId : Uuid) : Option (Nat × CheckpointRow) :=
  (db.checkpointsOf virtualKeyId).argmax Prod.fst

def Db.latestCheckpointUpTo (db : Db) (virtualKeyId : Uuid) (revision : Nat) :
    Option (Nat × CheckpointRow) :=
  ((db.checkpointsOf virtualKeyId).filter fun entry => entry.1 ≤ revision).argmax Prod.fst

def putOwner (sessionId : Uuid) (row : OwnerRow) : Tx Unit := do
  let db ← get
  sql (db.acceptsOwner row)
  set { db with ownerSessions := db.ownerSessions.insert sessionId row }

def putSettings (deploymentNamespace : String) (row : RuntimeSettingsRow) : Tx Unit := do
  let db ← get
  sql (acceptsSettings deploymentNamespace row)
  set { db with runtimeSettings := db.runtimeSettings.insert deploymentNamespace row }

end KongRust.Budget
