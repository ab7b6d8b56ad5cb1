import KongRust.Budget.Rules

/-!
# Runs of the budget store

A system is the database together with the rebuild scans that are still to be applied. A call is
one transaction with its arguments, the clock and the identifiers it draws; `perform` runs it
atomically. `Move` says everything that a call can do to accounts, ledger and checkpoints, and
`perform_move` that every call is one of these moves.
-/

namespace KongRust.Budget

open Transaction

/-! ## Systems and calls -/

/-- A scan that `verify_or_rebuild` has taken and not yet applied. -/
structure InFlight where
  command : NormalizedRebuildCommand
  scan : RebuildScan

structure System where
  db : Db
  rebuilds : List InFlight

inductive Call where
  | createIntent (store : PgBudgetStore) (command : CreateBudgetIntent) (now : Nat)
  | markDispatching (store : PgBudgetStore) (command : MarkBudgetDispatching) (now : Nat)
  | settle (store : PgBudgetStore) (command : SettleBudgetIntent) (now : Nat)
  | recoverStale (store : PgBudgetStore) (candidate : StaleIntentCandidate) (now : Nat)
  | checkpointAccount (store : PgBudgetStore) (command : CheckpointBudgetAccount) (issueId : Uuid)
      (now : Nat)
  | recordAccountIssue (store : PgBudgetStore) (virtualKeyId : Uuid) (scope : BudgetAdminScope)
      (reason : String) (issueId : Uuid) (now : Nat)
  | reconcile (store : PgBudgetStore) (command : ReconcileBudgetIntent) (childId : Uuid) (now : Nat)
  | scanRebuild (store : PgBudgetStore) (command : RebuildBudgetAccount)
  | applyRebuild (store : PgBudgetStore) (index : Nat) (auditId : Uuid) (now : Nat)
  | createAccount (store : PgBudgetStore) (command : CreateBudgetAccount) (now : Nat)
  | updateAccount (store : PgBudgetStore) (command : UpdateBudgetAccount) (now : Nat)
  | deleteAccount (store : PgBudgetStore) (command : DeleteBudgetAccount) (now : Nat)
  | registerOwner (store : PgBudgetStore) (command : BudgetOwnerCommand) (now : Nat)
  | heartbeatOwner (store : PgBudgetStore) (command : BudgetOwnerCommand) (now : Nat)
  | stopOwner (store : PgBudgetStore) (command : StopBudgetOwner) (now : Nat)

/-- What a call works on. -/
inductive Subject where
  | intent (id : Uuid)
  | account
  | owner
  deriving DecidableEq

def Call.subject : Call → Subject
  | .createIntent _ command _ => .intent command.intentId
  | .markDispatching _ command _ => .intent command.intentId
  | .settle _ command _ => .intent command.intentId
  | .recoverStale _ candidate _ => .intent candidate.intentId
  | .reconcile _ command _ _ => .intent command.intentId
  | .registerOwner .. | .heartbeatOwner .. | .stopOwner .. => .owner
  | _ => .account

section Perform

variable (libs : External)

def System.run {α : Type} (sys : System) (t : Tx α) : System :=
  { sys with db := (execute t sys.db).2 }

/-- The first half of `verify_or_rebuild`: a scan, kept for the second half unless it was only to
be verified. -/
def System.scan (sys : System) (store : PgBudgetStore) (command : RebuildBudgetAccount) : System :=
  match normalizeRebuildCommand libs command with
  | .error _ => sys
  | .ok normalized =>
    match (execute (scanRebuildSnapshot store normalized.virtualKeyId normalized.scope) sys.db).1 with
    | .error _ => sys
    | .ok scan =>
      if normalized.dryRun then sys else { sys with rebuilds := ⟨normalized, scan⟩ :: sys.rebuilds }

variable (sys : System)

/-- The second half of `verify_or_rebuild`: a scan in flight is applied once. -/
def System.applyRebuild (sys : System) (store : PgBudgetStore) (index : Nat) (auditId : Uuid)
    (now : Nat) : System :=
  match sys.rebuilds[index]? with
  | none => sys
  | some rebuild =>
    { sys.run (applyRebuildSnapshot libs store rebuild.command rebuild.scan auditId now) with
      rebuilds := sys.rebuilds.eraseIdx index }

def perform (sys : System) : Call → System
  | .createIntent store command now => sys.run (createIntent libs store command now)
  | .markDispatching store command now => sys.run (markDispatching libs store command now)
  | .settle store command now => sys.run (settle libs store command now)
  | .recoverStale store candidate now => sys.run (recoverStaleCandidate libs store candidate now)
  | .checkpointAccount store command issueId now =>
    sys.run (checkpointAccount libs store command issueId now)
  | .recordAccountIssue store virtualKeyId scope reason issueId now =>
    sys.run (recordAccountIssue libs store virtualKeyId scope reason issueId now)
  | .reconcile store command childId now => sys.run (reconcile libs store command childId now)
  | .scanRebuild store command => sys.scan libs store command
  | .applyRebuild store index auditId now => sys.applyRebuild libs store index auditId now
  | .createAccount store command now => sys.run (createAccount store command now)
  | .updateAccount store command now => sys.run (updateAccount store command now)
  | .deleteAccount store command now => sys.run (deleteAccount store command now)
  | .registerOwner store command now => sys.run (registerOwner store command now)
  | .heartbeatOwner store command now => sys.run (heartbeatOwner store command now)
  | .stopOwner store command now => sys.run (stopOwner store command now)

def runCalls (sys : System) (calls : List Call) : System := calls.foldl (perform libs) sys

end Perform

/-! ## Moves -/

/-- The row after it was written at a revision: what identifies it stays. -/
structure LedgerRow.Follows (row' row : LedgerRow) (revision : Nat) : Prop where
  virtualKeyId : row'.virtualKeyId = row.virtualKeyId
  workspaceId : row'.workspaceId = row.workspaceId
  kind : row'.kind = row.kind
  requestId : row'.requestId = row.requestId
  parentIntentId : row'.parentIntentId = row.parentIntentId
  revision : row'.lastAccountRevision = revision

/-- An account before and after ledger events at its next revision. -/
structure Posts (db : Db) (key : Uuid) (account account' : AccountRow) (events : Nat) : Prop where
  found : db.virtualKeys.lookup key = some account
  revision : account'.budgetAccountingRevision = account.budgetAccountingRevision + 1
  tail : account'.budgetCheckpointTailEvents = account.budgetCheckpointTailEvents + events
  workspace : account'.wsId = account.wsId

/-- An open row of this status leaves the counters of its account. -/
structure Releases (status : BudgetLedgerStatus) (account account' : AccountRow) : Prop where
  counted : 0 < openCount status account
  pending : account'.budgetPendingCount = (releaseCount status account).budgetPendingCount
  unresolved : account'.budgetUnresolvedCount = (releaseCount status account).budgetUnresolvedCount

/-- An open row of this status is counted as unresolved from now on. -/
structure Suspends (status : BudgetLedgerStatus) (account account' : AccountRow) : Prop where
  counted : 0 < openCount status account
  pending : account'.budgetPendingCount = (suspendCount status account).budgetPendingCount
  unresolved : account'.budgetUnresolvedCount = (suspendCount status account).budgetUnresolvedCount
  used : account'.budgetUsed = account.budgetUsed

/-- A new row of an account, written at its next revision. -/
structure Appends (libs : External) (db : Db) (key : Uuid) (account : AccountRow) (id : Uuid)
    (row : LedgerRow) : Prop where
  fresh : db.ledger.lookup id = none
  virtualKeyId : row.virtualKeyId = key
  workspaceId : row.workspaceId = account.wsId
  revision : row.lastAccountRevision = account.budgetAccountingRevision + 1
  checks : row.satisfiesChecks libs

/-- An open row of an account, rewritten at its next revision. -/
structure Rewrites (libs : External) (db : Db) (key : Uuid) (account : AccountRow) (id : Uuid)
    (row row' : LedgerRow) : Prop where
  found : db.ledger.lookup id = some row
  virtualKeyId : row.virtualKeyId = key
  status : row.status = .pending ∨ row.status = .unresolved
  follows : row'.Follows row (account.budgetAccountingRevision + 1)
  checks : row'.satisfiesChecks libs

/-- The effects of one call on accounts, ledger and checkpoints; the first index is what the call
works on. -/
inductive Move (libs : External) (sys : System) : Subject → Db → Prop
  /-- Nothing, or owner sessions and settings only. -/
  | quiet {subject : Subject} {db' : Db} (hAccounts : db'.virtualKeys = sys.db.virtualKeys)
      (hLedger : db'.ledger = sys.db.ledger) (hCheckpoints : db'.checkpoints = sys.db.checkpoints)
      (hFencing : subject ≠ .owner → db'.ownerSessions = sys.db.ownerSessions ∧
        db'.runtimeSettings = sys.db.runtimeSettings) :
      Move libs sys subject db'
  /-- A new intent. -/
  | opened {key id : Uuid} {account account' : AccountRow} {row : LedgerRow} {requestId : String}
      (hPosts : Posts sys.db key account account' 1)
      (hAppends : Appends libs sys.db key account id row)
      (hKind : row.kind = .request) (hRequest : row.requestId = some requestId)
      (hUnique : ∀ id' other, sys.db.ledger.lookup id' = some other →
        other.requestId ≠ some requestId) (hStatus : row.status = .pending)
      (hUsed : account'.budgetUsed = account.budgetUsed)
      (hPending : account'.budgetPendingCount = account.budgetPendingCount + 1)
      (hUnresolved : account'.budgetUnresolvedCount = account.budgetUnresolvedCount) :
      Move libs sys (.intent id)
        { sys.db with
          virtualKeys := sys.db.virtualKeys.insert key account'
          ledger := sys.db.ledger.insert id row }
  /-- An intent that goes out. -/
  | dispatched {id : Uuid} {row row' : LedgerRow} (hFound : sys.db.ledger.lookup id = some row)
      (hStatus : row.status = .pending) (hFollows : row'.Follows row row.lastAccountRevision)
      (hStatus' : row'.status = .pending) (hChecks : row'.satisfiesChecks libs) :
      Move libs sys (.intent id) { sys.db with ledger := sys.db.ledger.insert id row' }
  /-- An open intent is charged. -/
  | settled {key id : Uuid} {account account' : AccountRow} {row row' : LedgerRow} {amount : Usd}
      (hPosts : Posts sys.db key account account' 1)
      (hRewrites : Rewrites libs sys.db key account id row row')
      (hStatus' : row'.status = .settled) (hCost : row'.accountedCostUsd = some amount)
      (hReleases : Releases row.status account account')
      (hUsed : account'.budgetUsed.units = account.budgetUsed.units + amount.units) :
      Move libs sys (.intent id)
        { sys.db with
          virtualKeys := sys.db.virtualKeys.insert key account'
          ledger := sys.db.ledger.insert id row' }
  /-- An open intent cannot be charged. -/
  | suspended {key id : Uuid} {account account' : AccountRow} {row row' : LedgerRow}
      (hPosts : Posts sys.db key account account' 1)
      (hRewrites : Rewrites libs sys.db key account id row row')
      (hStatus' : row'.status = .unresolved) (hSuspends : Suspends row.status account account') :
      Move libs sys (.intent id)
        { sys.db with
          virtualKeys := sys.db.virtualKeys.insert key account'
          ledger := sys.db.ledger.insert id row' }
  /-- An open intent is resolved by a charge of its own row. -/
  | reconciled {key id childId : Uuid} {account account' : AccountRow}
      {row row' child : LedgerRow} {amount : Usd}
      (hPosts : Posts sys.db key account account' 2)
      (hRewrites : Rewrites libs sys.db key account id row row')
      (hAppends : Appends libs sys.db key account childId child)
      (hStatus' : row'.status = .resolved) (hIntent : row.kind = .request)
      (hKind : child.kind = .reconciliation) (hParent : child.parentIntentId = some id)
      (hChild : child.status = .settled ∨ child.status = .waived ∧ amount.units = 0)
      (hCost : child.accountedCostUsd = some amount)
      (hReleases : Releases row.status account account')
      (hUsed : account'.budgetUsed.units = account.budgetUsed.units + amount.units) :
      Move libs sys (.intent id)
        { sys.db with
          virtualKeys := sys.db.virtualKeys.insert key account'
          ledger := (sys.db.ledger.insert childId child).insert id row' }
  /-- A resolution whose charge does not fit. -/
  | attempted {key id attemptId : Uuid} {account account' : AccountRow}
      {row row' attempt : LedgerRow}
      (hPosts : Posts sys.db key account account' 2)
      (hRewrites : Rewrites libs sys.db key account id row row')
      (hAppends : Appends libs sys.db key account attemptId attempt)
      (hStatus' : row'.status = .unresolved) (hKind : attempt.kind = .reconciliationAttempt)
      (hAttempt : attempt.status = .resolved) (hSuspends : Suspends row.status account account') :
      Move libs sys (.intent id)
        { sys.db with
          virtualKeys := sys.db.virtualKeys.insert key account'
          ledger := (sys.db.ledger.insert id row').insert attemptId attempt }
  /-- An account issue. -/
  | flagged {key id : Uuid} {account account' : AccountRow} {row : LedgerRow}
      (hPosts : Posts sys.db key account account' 1)
      (hAppends : Appends libs sys.db key account id row)
      (hKind : row.kind = .accountIssue) (hStatus : row.status = .unresolved)
      (hUsed : account'.budgetUsed = account.budgetUsed)
      (hPending : account'.budgetPendingCount = account.budgetPendingCount)
      (hUnresolved : account'.budgetUnresolvedCount = account.budgetUnresolvedCount + 1) :
      Move libs sys .account
        { sys.db with
          virtualKeys := sys.db.virtualKeys.insert key account'
          ledger := sys.db.ledger.insert id row }
  /-- A checkpoint of the stored amount. -/
  | checkpointed {key : Uuid} {account account' : AccountRow} {row : CheckpointRow}
      (hFound : sys.db.virtualKeys.lookup key = some account)
      (hFresh : sys.db.checkpoints.lookup (key, account.budgetAccountingRevision) = none)
      (hCost : row.accountedCostUsd = account.budgetUsed)
      (hAccount' : account' = { account with
        budgetCheckpointTailEvents := 0
        budgetStateUpdatedAt := account'.budgetStateUpdatedAt }) :
      Move libs sys .account
        { sys.db with
          virtualKeys := sys.db.virtualKeys.insert key account'
          checkpoints := sys.db.checkpoints.insert (key, account.budgetAccountingRevision) row }
  /-- A scan in flight is written back. -/
  | rebuilt {rebuild : InFlight} {auditId : Uuid} {account account' : AccountRow}
      {audit : LedgerRow} {row : CheckpointRow} {now : Nat} (hScan : rebuild ∈ sys.rebuilds)
      (hFound : sys.db.virtualKeys.lookup rebuild.command.virtualKeyId = some account)
      (hCurrent :
        rebuild.scan.account.accountingRevision = account.budgetAccountingRevision)
      (hAppends : Appends libs sys.db rebuild.command.virtualKeyId account auditId audit)
      (hKind : audit.kind = .rebuildAudit) (hStatus : audit.status = .resolved)
      (hClosed : Table.total (fun row => if closesIssue rebuild.command
          account.budgetAccountingRevision row then 1 else 0) sys.db.ledger =
        rebuild.scan.openAccountIssueCount)
      (hChecks : ∀ id row, sys.db.ledger.lookup id = some row →
        closesIssue rebuild.command account.budgetAccountingRevision row →
        (closedIssue rebuild.command auditId (account.budgetAccountingRevision + 1) now
          row).satisfiesChecks libs)
      (hFresh : sys.db.checkpoints.lookup
        (rebuild.command.virtualKeyId, account.budgetAccountingRevision + 1) = none)
      (hCost : row.accountedCostUsd = rebuild.scan.recomputedUsedUsd)
      (hUsed : account'.budgetUsed = rebuild.scan.recomputedUsedUsd)
      (hPending : account'.budgetPendingCount = rebuild.scan.pendingCount)
      (hUnresolved : account'.budgetUnresolvedCount = rebuild.scan.unresolvedRequestCount)
      (hRevision : account'.budgetAccountingRevision = account.budgetAccountingRevision + 1)
      (hTail : account'.budgetCheckpointTailEvents = 0)
      (hWorkspace : account'.wsId = account.wsId) :
      Move libs sys .account
        { sys.db with
          virtualKeys := sys.db.virtualKeys.insert rebuild.command.virtualKeyId account'
          ledger := Table.update
            (closesIssue rebuild.command account.budgetAccountingRevision)
            (closedIssue rebuild.command auditId (account.budgetAccountingRevision + 1) now)
            (sys.db.ledger.insert auditId audit)
          checkpoints := sys.db.checkpoints.insert
            (rebuild.command.virtualKeyId, account.budgetAccountingRevision + 1) row }
  /-- An administrator edits an account. -/
  | edited {key : Uuid} {account account' : AccountRow}
      (hPosts : Posts sys.db key account account' 0)
      (hUsed : account'.budgetUsed = account.budgetUsed)
      (hPending : account'.budgetPendingCount = account.budgetPendingCount)
      (hUnresolved : account'.budgetUnresolvedCount = account.budgetUnresolvedCount) :
      Move libs sys .account
        { sys.db with virtualKeys := sys.db.virtualKeys.insert key account' }
  /-- A new account with its first checkpoint. -/
  | created {key : Uuid} {account : AccountRow} {row : CheckpointRow}
      (hFresh : sys.db.virtualKeys.lookup key = none)
      (hFreshCheckpoint : sys.db.checkpoints.lookup (key, 0) = none)
      (hUsed : account.budgetUsed = .zero) (hPending : account.budgetPendingCount = 0)
      (hUnresolved : account.budgetUnresolvedCount = 0)
      (hRevision : account.budgetAccountingRevision = 0)
      (hTail : account.budgetCheckpointTailEvents = 0) (hCost : row.accountedCostUsd = .zero) :
      Move libs sys .account
        { sys.db with
          virtualKeys := sys.db.virtualKeys.insert key account
          checkpoints := sys.db.checkpoints.insert (key, 0) row }
  /-- An account is deleted; its ledger and its checkpoints stay. -/
  | deleted {key : Uuid} {account : AccountRow}
      (hFound : sys.db.virtualKeys.lookup key = some account)
      (hPending : account.budgetPendingCount = 0)
      (hUnresolved : account.budgetUnresolvedCount = 0) :
      Move libs sys .account { sys.db with virtualKeys := sys.db.virtualKeys.erase key }

end KongRust.Budget
