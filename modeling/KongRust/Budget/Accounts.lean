import KongRust.Budget.Agreement

/-!
# What the accounts of every run store

The budget tables start as the core migrations leave them: each account with the amount it had
used, a settled opening balance and a first checkpoint of that amount. From there on, in any
interleaving of transactions, the counts and the amount of an account are those of its ledger;
so neither a checkpoint nor a rebuild ever finds them apart.
-/

namespace KongRust.Budget

open Transaction BudgetStoreError

/-! ## The migrated database -/

/-- The opening balance of an account that had used its budget before the migration. -/
def openingBalanceRow (virtualKeyId : Uuid) (account : AccountRow) (migratedAt : Nat) :
    LedgerRow where
  virtualKeyId := virtualKeyId
  virtualKeyName := account.name
  virtualKeyPrefix := account.keyPrefix
  workspaceId := account.wsId
  kind := .openingBalance
  status := .settled
  operationId := "opening-balance:v1:" ++ uuidText virtualKeyId
  lastAccountRevision := 0
  accountedCostUsd := some account.budgetUsed
  costStatus := some .calculated
  createdAt := timestamptz3 migratedAt
  updatedAt := timestamptz3 migratedAt
  settledAt := some (timestamptz3 migratedAt)

/-- A system whose database comes straight from the core migrations. -/
structure System.Migrated (sys : System) : Prop where
  accounts : ∀ key account, sys.db.virtualKeys.lookup key = some account →
    account.budgetPendingCount = 0 ∧ account.budgetUnresolvedCount = 0 ∧
      account.budgetAccountingRevision = 0 ∧ account.budgetCheckpointTailEvents = 0
  ledger : ∀ id row, sys.db.ledger.lookup id = some row → ∃ account migratedAt,
    sys.db.virtualKeys.lookup row.virtualKeyId = some account ∧
      row = openingBalanceRow row.virtualKeyId account migratedAt
  checkpoints : ∀ key revision row, sys.db.checkpoints.lookup (key, revision) = some row →
    revision = 0 ∧ ∃ account, sys.db.virtualKeys.lookup key = some account ∧
      row.accountedCostUsd = account.budgetUsed ∧ row.operationId = genesisOperation key
  genesis : ∀ key account, sys.db.virtualKeys.lookup key = some account →
    sys.db.checkpoints.lookup (key, 0) ≠ none
  rebuilds : sys.rebuilds = []

/-- A migrated system on which no node has registered yet. The migrations also refuse accounts
whose limits are no positive integers. -/
structure System.Initial (sys : System) : Prop where
  migrated : sys.Migrated
  owners : sys.db.ownerSessions = ∅
  settings : sys.db.runtimeSettings = ∅
  quotas : ∀ key account, sys.db.virtualKeys.lookup key = some account →
    quotaValid account.tpmLimit ∧ quotaValid account.rpmLimit

section Migration

variable {sys : System}

section

variable (h : sys.Migrated)
include h

theorem System.Migrated.row {id : Uuid} {row : LedgerRow}
    (hRow : sys.db.ledger.lookup id = some row) :
    row.status = .settled ∧ row.kind = .openingBalance ∧ row.lastAccountRevision = 0 := by
  obtain ⟨account, migratedAt, -, hOpening⟩ := h.ledger id row hRow
  rw [hOpening]
  exact ⟨rfl, rfl, rfl⟩

theorem System.Migrated.rowsIn (key : Uuid) {status : BudgetLedgerStatus}
    (hStatus : status ≠ .settled) : sys.db.rowsIn key status = 0 := by
  unfold Db.rowsIn Db.countRows
  refine Table.total_eq_zero_iff.mpr fun id row hRow => ?_
  simp [(h.row hRow).1, hStatus.symm]

theorem System.Migrated.used {key : Uuid} {account : AccountRow}
    (hFound : sys.db.virtualKeys.lookup key = some account) :
    account.budgetUsed.units = sys.db.derivedUsed key := by
  obtain ⟨genesis, hGenesis⟩ := Option.ne_none_iff_exists'.mp (h.genesis key account hFound)
  obtain ⟨⟨revision, checkpoint⟩, hLatest⟩ :=
    Option.ne_none_iff_exists'.mp (latestCheckpoint_ne_none hGenesis)
  obtain ⟨rfl, account', hFound', hCost, -⟩ :=
    h.checkpoints key revision checkpoint (lookup_of_latestCheckpoint hLatest)
  obtain rfl : account = account' := Option.mem_unique hFound hFound'
  have hTail : sys.db.sumCosts key (isTail 0) = 0 :=
    tail_eq_zero fun id row hRow _ => (h.row hRow).2.2.le
  simp only [Db.derivedUsed, hLatest, hCost, hTail, Nat.add_zero]

/-- The invariant holds when the migrations are done. -/
theorem System.Migrated.invariant : sys.Invariant where
  consistent := {
    pending := fun key account hFound =>
      (h.accounts key account hFound).1.trans (h.rowsIn key (by decide)).symm
    unresolved := fun key account hFound =>
      (h.accounts key account hFound).2.1.trans (h.rowsIn key (by decide)).symm
    used := fun key account hFound => h.used hFound
    rowRevision := fun id row account hRow _ => by
      rw [(h.row hRow).2.2]
      exact Nat.zero_le _
    rowWorkspace := fun id row account hRow hFound => by
      obtain ⟨account', migratedAt, hFound', hOpening⟩ := h.ledger id row hRow
      obtain rfl : account = account' := Option.mem_unique hFound hFound'
      rw [hOpening]
      rfl
    checkpointRevision := fun key revision checkpoint account hCheckpoint _ => by
      rw [(h.checkpoints key revision checkpoint hCheckpoint).1]
      exact Nat.zero_le _
    accountGenesis := h.genesis
    rowGenesis := fun id row hRow => by
      obtain ⟨account, -, hFound, -⟩ := h.ledger id row hRow
      exact h.genesis _ account hFound
    checkpointGenesis := fun key revision checkpoint hCheckpoint => by
      obtain ⟨-, account, hFound, -⟩ := h.checkpoints key revision checkpoint hCheckpoint
      exact h.genesis key account hFound
    checked := fun id row hRow => by
      obtain ⟨hStatus, hKind, -⟩ := h.row hRow
      simp [LedgerRow.kindStatusValid, hStatus, hKind] }
  sound rebuild hRebuild := by
    rw [h.rebuilds] at hRebuild
    cases hRebuild

end

end Migration

/-! ## Checkpoints find no drift -/

section Checkpoint

variable {libs : External} {db : Db}

theorem corrupt_ne_checkpointDrift (message : String) :
    corrupt message ≠ checkpointDrift := by
  simp [corrupt, new, checkpointDrift]

theorem unavailable_ne_checkpointDrift (message : String) :
    unavailable message ≠ checkpointDrift := by
  simp [unavailable, new, checkpointDrift]

theorem mapSqlxError_ne_checkpointDrift (e : SqlxError) : mapSqlxError e ≠ checkpointDrift := by
  cases e <;> simp [mapSqlxError, checkpointDrift, new]

variable {key : Uuid} {account : AccountRow} {revision : Nat} {latest : CheckpointRow}

section

variable (h : Consistent db)
include h

theorem Consistent.settledCost
    (hFound : db.virtualKeys.lookup key = some account) (revision : Nat) :
    db.settledCost key revision account.budgetAccountingRevision =
      db.sumCosts key (isTail revision) := by
  refine Table.total_congr fun entry hEntry => ?_
  have hLe := fun hKey : entry.2.virtualKeyId = key =>
    h.rowRevision entry.1 entry.2 account (Table.lookup_eq_some_iff.mpr hEntry) (hKey ▸ hFound)
  simp only [isTail, Bool.and_eq_true, beq_iff_eq, decide_eq_true_eq]
  by_cases hKey : entry.2.virtualKeyId = key
  · simp [hKey, hLe hKey]
  · simp [hKey]

theorem Consistent.derived (hFound : db.virtualKeys.lookup key = some account)
    (hLatest : db.latestCheckpoint key = some (revision, latest)) {sum : Decimal}
    (hSum : decodeNumeric (db.settledCost key revision account.budgetAccountingRevision) = .ok sum)
    {settledCost derivedUsed : Usd} (hCost : normalizeBudgetAmount sum = .ok settledCost)
    (hDerived : latest.accountedCostUsd.checkedAdd settledCost = some derivedUsed) :
    derivedUsed = account.budgetUsed := by
  have hUsed := h.used key account hFound
  simp only [Db.derivedUsed, hLatest] at hUsed
  rw [h.settledCost hFound] at hSum
  have hBound := account.budgetUsed.inRange
  have hUnits : settledCost.units = db.sumCosts key (isTail revision) := by
    unfold decodeNumeric at hSum
    split at hSum
    · cases hSum
      rw [normalizeBudgetAmount_of_scale rfl (Int.natCast_nonneg _) (by simp; omega)] at hCost
      cases hCost
      simp
    · cases hSum
  refine Usd.ext_units ?_
  rw [Usd.units_of_checkedAdd hDerived, hUnits, hUsed]

theorem Consistent.checkpointTail {command : CheckpointBudgetAccount}
    (hFound : db.virtualKeys.lookup command.virtualKeyId = some account)
    (hLatest : db.latestCheckpoint command.virtualKeyId = some (revision, latest)) {issueId : Uuid}
    {now : Nat} :
    Ends (checkpointTail libs command (account.intoSnapshot command.virtualKeyId) revision latest
      issueId now) db (fun answer _ => answer ≠ .error checkpointDrift)
      fun e => e ≠ checkpointDrift := by
  simp only [Budget.checkpointTail, ends_rules, ends_sql, ends_ite,
    ends_insertCheckpoint]
  refine ⟨fun sum hSum => ⟨fun _ => ⟨fun settledCost hCost => ⟨fun derivedUsed hDerived => ?_,
    fun _ => by simp [checkpointDrift, new]⟩, fun e hError => ?_⟩,
    fun _ => corrupt_ne_checkpointDrift _⟩, fun e _ => mapSqlxError_ne_checkpointDrift e⟩
  · have hCost : normalizeBudgetAmount sum = .ok settledCost := by
      cases hNormal : normalizeBudgetAmount sum with
      | ok amount =>
        rw [hNormal] at hCost
        cases hCost
        rfl
      | error _ =>
        rw [hNormal] at hCost
        cases hCost
    have hEqual := h.derived hFound hLatest hSum hCost hDerived
    refine ⟨fun hDrift => absurd hEqual hDrift, fun _ => ⟨fun _ => ?_,
      fun e _ => mapSqlxError_ne_checkpointDrift e⟩⟩
    refine ends_updateAccountRow (fun row row' _ _ _ => ?_) ?_
      fun e _ => mapSqlxError_ne_checkpointDrift e
    · exact ⟨fun _ _ => by simp, fun hNone => (by cases hNone)⟩
    · exact ⟨fun _ hSome => (by cases hSome), fun _ => corrupt_ne_checkpointDrift _⟩
  · cases hNormal : normalizeBudgetAmount sum with
    | ok amount =>
      rw [hNormal] at hError
      cases hError
    | error message =>
      rw [hNormal] at hError
      cases hError
      exact corrupt_ne_checkpointDrift message

theorem Consistent.checkpointAccount (store : PgBudgetStore)
    (command : CheckpointBudgetAccount) (issueId : Uuid) (now : Nat) :
    Ends (checkpointAccount libs store command issueId now) db
      (fun answer _ => answer ≠ .error checkpointDrift) fun e => e ≠ checkpointDrift := by
  simp only [Budget.checkpointAccount, ends_rules]
  refine ⟨fun _ _ => ?_, fun e hError => ?_⟩
  · refine ends_beginWrite ?_ corrupt_ne_checkpointDrift
    refine ends_loadAuthoritativeHardTail (fun _ _ => ?_) unavailable_ne_checkpointDrift
    refine ends_loadLockedAccount (fun account hFound => ?_) (corrupt_ne_checkpointDrift _)
      corrupt_ne_checkpointDrift
    split
    · simp only [ends_rules]
      exact ⟨fun _ => by simp, fun _ => corrupt_ne_checkpointDrift _⟩
    · simp only [ends_rules, ends_ite]
      refine ⟨fun _ => ⟨fun latest hLatest => ⟨fun _ => ⟨fun _ => ⟨fun _ => by simp,
        fun _ => corrupt_ne_checkpointDrift _⟩, fun _ => h.checkpointTail hFound hLatest⟩,
        fun _ => corrupt_ne_checkpointDrift _⟩, fun _ => corrupt_ne_checkpointDrift _⟩,
        fun _ => corrupt_ne_checkpointDrift _⟩
  · unfold validateCheckpointCommand at hError
    split at hError
    · cases hError
      exact corrupt_ne_checkpointDrift _
    · cases hError

end

end Checkpoint

/-! ## A sample run -/

/-- The sizes are those of the pricing snapshot below; the run computes no digest. -/
def sampleExternal : External where
  sha256Hex _ := ""
  nfc s := s
  jsonArray _ := ""
  pricingJsonBytes _ := 114
  pricingTextBytes _ := 125

def sampleFingerprint (digit : Char) : String := String.ofList (List.replicate 64 digit)

def sampleStore : PgBudgetStore where
  config := {
    deploymentNamespace := "default"
    checkpointHardTailEvents := 100
    configFingerprint := sampleFingerprint 'a'
    statementTimeout := 5000000000
    lockTimeout := 2000000000 }
  valid := by decide

/-- An account that had used two of its ten dollars before the migration. -/
def sampleAccount : AccountRow where
  name := "team"
  keyHash := "hash"
  keyPrefix := "sk-team"
  consumerId := none
  allowedModels := none
  tpmLimit := none
  rpmLimit := none
  budgetLimit := some ⟨10000000000000, by decide⟩
  budgetUsed := ⟨2000000000000, by decide⟩
  budgetPendingCount := 0
  budgetUnresolvedCount := 0
  budgetAccountingRevision := 0
  budgetCheckpointTailEvents := 0
  budgetStateUpdatedAt := 0
  enabled := true
  expiresAt := none
  tags := none
  wsId := none
  updatedAt := 0

def sampleSystem : System where
  db := {
    virtualKeys := (∅ : AList fun _ : Uuid => AccountRow).insert 1 sampleAccount
    ledger := (∅ : AList fun _ : Uuid => LedgerRow).insert 2 (openingBalanceRow 1 sampleAccount 0)
    checkpoints := (∅ : AList fun _ : Uuid × Nat => CheckpointRow).insert (1, 0)
      ⟨sampleAccount.budgetUsed, genesisOperation 1, 0⟩
    ownerSessions := ∅
    runtimeSettings := ∅
    workspaces := []
    consumers := [] }
  rebuilds := []

theorem sampleSystem_migrated : sampleSystem.Migrated where
  accounts key account hFound := by
    obtain ⟨-, rfl⟩ | ⟨-, hOld⟩ := Table.lookup_insert_cases hFound
    · exact ⟨rfl, rfl, rfl, rfl⟩
    · cases hOld
  ledger id row hRow := by
    obtain ⟨-, rfl⟩ | ⟨-, hOld⟩ := Table.lookup_insert_cases hRow
    · exact ⟨sampleAccount, 0, AList.lookup_insert _, rfl⟩
    · cases hOld
  checkpoints key revision row hRow := by
    obtain ⟨hKey, rfl⟩ | ⟨-, hOld⟩ := Table.lookup_insert_cases hRow
    · obtain ⟨rfl, rfl⟩ := Prod.mk.inj hKey
      exact ⟨rfl, sampleAccount, AList.lookup_insert _, rfl, rfl⟩
    · cases hOld
  genesis key account hFound := by
    obtain ⟨rfl, -⟩ | ⟨-, hOld⟩ := Table.lookup_insert_cases hFound
    · exact Option.some_ne_none _
    · cases hOld
  rebuilds := rfl

theorem sampleSystem_initial : sampleSystem.Initial where
  migrated := sampleSystem_migrated
  owners := rfl
  settings := rfl
  quotas key account hFound := by
    obtain ⟨-, rfl⟩ | ⟨-, hOld⟩ := Table.lookup_insert_cases hFound
    · exact ⟨rfl, rfl⟩
    · cases hOld

def sampleRequest (digit : Char) : String := String.ofList (List.replicate 32 digit)

variable (intentId : Uuid)

def sampleIntent (intentId : Uuid) (digit : Char) : CreateBudgetIntent where
  intentId := intentId
  virtualKeyId := 1
  requestId := sampleRequest digit
  operationId := "intent:v1:" ++ sampleRequest digit
  commandFingerprint := sampleFingerprint digit
  pricingFingerprint := sampleFingerprint 'c'
  pricingSnapshot := ⟨1, "openai", "gpt-4o", none, none, none⟩
  nodeId := 3
  ownerSessionId := 4
  staleAfter := 120000000000

def sampleDispatch (intentId : Uuid) (digit : Char) : MarkBudgetDispatching :=
  ⟨intentId, 1, sampleRequest digit, "budget-dispatch:v1:" ++ sampleRequest digit, 3, 4⟩

/-- A settlement of a dollar and a half. -/
def sampleSettle (intentId : Uuid) (digit : Char) : SettleBudgetIntent where
  intentId := intentId
  virtualKeyId := 1
  requestId := sampleRequest digit
  operationId := "budget-settle:v1:" ++ sampleRequest digit
  commandFingerprint := sampleFingerprint digit
  pricingFingerprint := sampleFingerprint 'c'
  usageFactId := none
  cost := ⟨.calculated, some ⟨15, 1, by decide, by decide⟩, []⟩

/-- An intent that is dispatched and settled, and a second one that stays pending. -/
def sampleCalls : List Call :=
  [.registerOwner sampleStore ⟨4, 3, 60000000000⟩ 0,
    .createIntent sampleStore (sampleIntent 5 '5') 1000,
    .markDispatching sampleStore (sampleDispatch 5 '5') 2000,
    .settle sampleStore (sampleSettle 5 '5') 3000,
    .createIntent sampleStore (sampleIntent 6 '6') 4000]

theorem sampleRun_end :
    ((runCalls sampleExternal sampleSystem sampleCalls).db.virtualKeys.lookup 1).map
        (fun account => (account.budgetUsed.units, account.budgetPendingCount,
          account.budgetUnresolvedCount, account.budgetCheckpointTailEvents,
          account.budgetAccountingRevision)) = some (3500000000000, 1, 0, 3, 3) ∧
      ((runCalls sampleExternal sampleSystem sampleCalls).db.ownerSessions.lookup 4).map
        (fun row => (row.live 59999999, row.live 60000000)) = some (true, false) := by
  decide +kernel

/-! ## The theorems -/

section Theorems

variable {libs : External} {sys : System}

/-- **Counts.** In every run, an account counts its pending and its unresolved ledger rows, and
the unresolved ones are requests and account issues. -/
theorem counts_eq_rows (hMigrated : sys.Migrated) (calls : List Call) {key : Uuid}
    {account : AccountRow}
    (hFound : (runCalls libs sys calls).db.virtualKeys.lookup key = some account) :
    account.budgetPendingCount =
        (runCalls libs sys calls).db.countRows key (fun row => row.status == .pending) ∧
      account.budgetUnresolvedCount =
        (runCalls libs sys calls).db.countRows key (fun row => row.status == .unresolved) ∧
      account.budgetUnresolvedCount = (runCalls libs sys calls).db.countRows key (fun row =>
        (row.kind == .request || row.kind == .accountIssue) && row.status == .unresolved) := by
  have hConsistent := (hMigrated.invariant.run libs calls).consistent
  have hUnresolved := hConsistent.unresolved key account hFound
  refine ⟨hConsistent.pending key account hFound, hUnresolved, hUnresolved.trans ?_⟩
  refine countRows_congr fun id row hRow _ => ?_
  by_cases hStatus : row.status = .unresolved
  · rcases kind_of_unresolved (hConsistent.checked id row hRow) hStatus with hKind | hKind <;>
      simp [hKind]
  · simp [beq_eq_false_iff_ne.mpr hStatus]

theorem counts_eq_rows_sample : ∃ account,
    (runCalls sampleExternal sampleSystem sampleCalls).db.virtualKeys.lookup 1 = some account ∧
      account.budgetPendingCount = 1 ∧ account.budgetPendingCount =
        (runCalls sampleExternal sampleSystem sampleCalls).db.countRows 1
          (fun row => row.status == .pending) := by
  obtain ⟨account, hFound, hStored⟩ := Option.map_eq_some_iff.mp sampleRun_end.1
  exact ⟨account, hFound, congrArg (fun stored => stored.2.1) hStored,
    (counts_eq_rows sampleSystem_migrated sampleCalls hFound).1⟩

/-- **Amounts.** In every run, what an account has used is its latest checkpoint and the costs
settled past it. So no checkpoint reports a drift, and every scan recomputes the stored amount; a
scan of an account in scope succeeds. -/
theorem used_eq_ledger (hMigrated : sys.Migrated) (calls : List Call) :
    (∀ key account, (runCalls libs sys calls).db.virtualKeys.lookup key = some account →
      account.budgetUsed.units = (runCalls libs sys calls).db.derivedUsed key) ∧
    (∀ store command issueId now, (execute (checkpointAccount libs store command issueId now)
        (runCalls libs sys calls).db).1 ≠ .ok (.error checkpointDrift) ∧
      (execute (checkpointAccount libs store command issueId now)
        (runCalls libs sys calls).db).1 ≠ .error checkpointDrift) ∧
    (∀ store key scope scan, (execute (scanRebuildSnapshot store key scope)
        (runCalls libs sys calls).db).1 = .ok scan →
      ∃ account, (runCalls libs sys calls).db.virtualKeys.lookup key = some account ∧
        scan.account.usedUsd = account.budgetUsed ∧
        scan.recomputedUsedUsd = account.budgetUsed) ∧
    (∀ store key scope account, (runCalls libs sys calls).db.virtualKeys.lookup key = some account →
      scope.contains account.wsId →
      asMillis store.config.statementTimeout < Machine.WORD →
      ∃ scan, (execute (scanRebuildSnapshot store key scope) (runCalls libs sys calls).db).1 =
        .ok scan) := by
  have hConsistent := (hMigrated.invariant.run libs calls).consistent
  refine ⟨hConsistent.used, fun store command issueId now => ?_,
    fun store key scope scan hScan => ?_, fun store key scope account hFound hScope hFits => ?_⟩
  · obtain ⟨answer, db', hRun, hAnswer⟩ | ⟨e, hRun, hError⟩ :=
      execute_of_ends (hConsistent.checkpointAccount store command issueId now)
    · rw [hRun]
      exact ⟨fun hEqual => hAnswer (Except.ok.inj hEqual), fun hEqual => (nomatch hEqual)⟩
    · rw [hRun]
      exact ⟨fun hEqual => (nomatch hEqual), fun hEqual => hError (Except.error.inj hEqual)⟩
  · obtain ⟨found, db', hRun, -, account, hFound, hAccount, hUsed, -⟩ | ⟨e, hRun, -⟩ :=
      execute_of_ends (hConsistent.scan store key scope)
    · rw [hRun] at hScan
      obtain rfl := Except.ok.inj hScan
      exact ⟨account, hFound, by rw [hAccount]; rfl, hUsed⟩
    · rw [hRun] at hScan
      cases hScan
  · obtain ⟨scan, db', hRun, -⟩ | ⟨e, -, hFalse⟩ :=
      execute_of_ends (hConsistent.scan_succeeds hFits hFound hScope)
    · exact ⟨scan, by rw [hRun]⟩
    · exact hFalse.elim

theorem used_eq_ledger_sample : ∃ account,
    (runCalls sampleExternal sampleSystem sampleCalls).db.virtualKeys.lookup 1 = some account ∧
      account.budgetUsed.units = 3500000000000 ∧ account.budgetUsed.units =
        (runCalls sampleExternal sampleSystem sampleCalls).db.derivedUsed 1 := by
  obtain ⟨account, hFound, hStored⟩ := Option.map_eq_some_iff.mp sampleRun_end.1
  exact ⟨account, hFound, congrArg Prod.fst hStored,
    (used_eq_ledger sampleSystem_migrated sampleCalls).1 1 account hFound⟩

end Theorems

end KongRust.Budget
