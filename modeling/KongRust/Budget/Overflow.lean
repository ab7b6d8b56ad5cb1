import KongRust.Budget.Exactness
import KongRust.Budget.Refinement

/-!
# The sum a settlement stores

A settlement charges an open intent with an accepted cost. `settle_exact` says what it leaves in
the account: the exact sum when it is at most the greatest amount of the column, and otherwise the
old amount, with the intent moved to unresolved. The database never meets the sum that is too
large, so the only numbers that can overflow there are the counters of the account.
-/

namespace KongRust.Budget

open Transaction

variable {libs : External} {db : Db}

/-! ## Failures of the code

The checks of a settlement are made in memory; what they report comes from no database. -/

def BudgetStoreError.Local (e : BudgetStoreError) : Prop := e.database = none

open BudgetStoreError (Local)

variable {message field : String} {row : LedgerRow} {cost : BudgetCostOutcome} {now : Nat}

@[simp] theorem local_corrupt : Local (.corrupt message) := rfl

variable {value : String} {command : SettleBudgetIntent} {account : BudgetAccountSnapshot}
  {existing : LedgerRow} {id key : Uuid}

theorem local_validateRequestId : Raises (validateRequestId value) Local := by
  simp [validateRequestId]

theorem local_validateOperationId {expected : String} :
    Raises (validateOperationId value expected field) Local := by
  simp [validateOperationId]

theorem local_validateFingerprint : Raises (validateFingerprint value field) Local := by
  simp [validateFingerprint]

theorem local_validateSettleCommand :
    Raises (validateSettleCommand command) Local := by
  simp [validateSettleCommand, validateReasons, local_validateRequestId, local_validateOperationId,
    local_validateFingerprint]

theorem local_validateAccountInvariants :
    Raises (validateAccountInvariants account) Local := by
  simp [validateAccountInvariants]

theorem local_verifySettleIdentity :
    Raises (verifySettleIdentity existing command) Local := by
  simp [verifySettleIdentity, verifyIntentIdentity]

theorem local_terminalDisposition :
    Raises (terminalDisposition existing command) Local := by
  unfold terminalDisposition
  split <;> simp

theorem local_intoRecord : Raises (row.intoRecord id) Local := by
  have hField : ∀ {α : Type} {field : Option α} {message : String},
      Raises (field.elim (throw (BudgetStoreError.corrupt message)) pure) Local := by
    intro _ field _
    cases field <;> simp
  unfold LedgerRow.intoRecord
  split <;> simp [hField]

theorem local_normalizeCost : Raises (normalizeCost cost) Local := by
  unfold normalizeCost
  cases cost.status <;> cases cost.amountUsd <;> simp

theorem local_checkedSettleRevision :
    Raises (checkedSettleRevision account) Local := by
  unfold checkedSettleRevision
  split
  · simp
  · split <;> simp

/-! ## Numbers that do not fit -/

def AccountRow.CountersFull (row : AccountRow) : Prop :=
  BIGINT ≤ row.budgetPendingCount ∨ BIGINT ≤ row.budgetUnresolvedCount + 1

/-- A failure that reports a number out of range is one of a counter of this account. -/
def OverflowsCounter (db : Db) (key : Uuid) (e : BudgetStoreError) : Prop :=
  e.database = some .numericValueOutOfRange →
    ∃ account, db.virtualKeys.lookup key = some account ∧ account.CountersFull

theorem OverflowsCounter.of_local {e : BudgetStoreError} (h : Local e) :
    OverflowsCounter db key e := by
  intro hDatabase
  unfold Local at h
  rw [h] at hDatabase
  cases hDatabase

theorem overflowsCounter_corrupt : OverflowsCounter db key (.corrupt message) := .of_local rfl

theorem raises_overflowsCounter {α : Type} {x : Except BudgetStoreError α}
    (h : Raises x Local) : Raises x (OverflowsCounter db key) :=
  fun e hError => .of_local (h e hError)

theorem revision_of_acceptsLedger
    (h : db.acceptsLedger libs id row = .error .numericValueOutOfRange) :
    BIGINT ≤ row.lastAccountRevision := by
  unfold Db.acceptsLedger at h
  split at h
  · cases h
  split at h
  · assumption
  split at h
  · cases h
  split at h
  · cases h
  split at h
  · cases h
  · cases h

theorem counters_of_acceptsAccount {row : AccountRow}
    (h : db.acceptsAccount id row = .error .numericValueOutOfRange) :
    BIGINT ≤ row.budgetPendingCount ∨ BIGINT ≤ row.budgetUnresolvedCount ∨
      BIGINT ≤ row.budgetAccountingRevision ∨ BIGINT ≤ row.budgetCheckpointTailEvents := by
  unfold Db.acceptsAccount at h
  split at h
  · assumption
  split at h
  · cases h
  split at h
  · cases h
  split at h
  · cases h
  · cases h

theorem database_mapSqlxError {e error : SqlxError} :
    (mapSqlxError e).database = some error ↔ e = error := by
  simp [mapSqlxError]

theorem ends_updateLedger_range {cond : LedgerRow → Bool}
    {change : LedgerRow → LedgerRow} {db₀ : Db} {post : LedgerRow → Db → Prop}
    (hChanged : ∀ row, db.ledger.lookup id = some row → cond row →
      post (change row) { db with ledger := db.ledger.insert id (change row) })
    (hRevision : ∀ row, (change row).lastAccountRevision < BIGINT) :
    Ends (updateLedger libs id cond change) db
      (fun updated db' => ∀ row', updated = some row' → post row' db')
      (OverflowsCounter db₀ key) := by
  refine ends_updateLedger (fun row hRow hCond _ => ?_) ?_ fun row e _ _ hError hRange => ?_
  · rintro _ ⟨rfl⟩
    exact hChanged row hRow hCond
  · rintro _ ⟨⟩
  · rw [database_mapSqlxError] at hRange
    subst hRange
    exact absurd (hRevision row) (not_lt.mpr (revision_of_acceptsLedger hError))

theorem ends_updateAccountRow_range {cond : AccountRow → Bool}
    {change : AccountRow → Option AccountRow} {account : AccountRow}
    {post : AccountRow → Db → Prop} (hAccount : db.virtualKeys.lookup id = some account)
    (hDefined : cond account → (change account).isSome)
    (hChanged : ∀ account', cond account → change account = some account' →
      post account' { db with virtualKeys := db.virtualKeys.insert id account' })
    (hRange : ∀ account', change account = some account' →
      (BIGINT ≤ account'.budgetPendingCount ∨ BIGINT ≤ account'.budgetUnresolvedCount ∨
        BIGINT ≤ account'.budgetAccountingRevision ∨
        BIGINT ≤ account'.budgetCheckpointTailEvents) → account.CountersFull) :
    Ends (updateAccountRow id cond change) db
      (fun updated db' => ∀ account', updated = some account' → post account' db')
      (OverflowsCounter db id) := by
  simp only [updateAccountRow, ends_rules]
  split
  · rintro _ ⟨⟩
  · next row hRow =>
    obtain ⟨hFound, hCond⟩ := Option.filter_eq_some_iff.mp hRow
    obtain rfl : account = row := Option.mem_unique hAccount hFound
    obtain ⟨account', hChange⟩ := Option.isSome_iff_exists.mp (hDefined hCond)
    simp only [ends_rules, ends_okOr_some hChange, ends_putAccount]
    refine ⟨fun _ => ?_, fun e hError hDatabase => ?_⟩
    · rintro _ ⟨rfl⟩
      exact hChanged account' hCond hChange
    · rw [database_mapSqlxError] at hDatabase
      subst hDatabase
      exact ⟨account, hAccount, hRange account' hChange (counters_of_acceptsAccount hError)⟩

theorem checkedSettleRevision_bounds {revision : Nat}
    (h : checkedSettleRevision account = .ok revision) :
    revision < BIGINT ∧ account.checkpointTailEvents + 1 < BIGINT := by
  unfold checkedSettleRevision at h
  split at h
  · cases h
  · next hRevision =>
    split at h
    · cases h
    · next hTail =>
      cases h
      simp only [checkedAddI64, Machine.checkedAdd_eq_some] at hRevision hTail
      exact ⟨hRevision.2 ▸ hRevision.1, hTail.1⟩

/-! ## The two ways a settlement ends -/

/-- The account keeps its amount and the intent becomes unresolved. -/
def Suspended (db : Db) (key id : Uuid) (account : AccountRow) (db' : Db) : Prop :=
  ∃ account' row', db'.virtualKeys = db.virtualKeys.insert key account' ∧
    db'.ledger = db.ledger.insert id row' ∧ account'.budgetUsed = account.budgetUsed ∧
    row'.status = .unresolved ∧ row'.accountedCostUsd = none

def Charged (db : Db) (key id : Uuid) (account : AccountRow) (amount : Usd) (db' : Db) : Prop :=
  ∃ account' row', db'.virtualKeys = db.virtualKeys.insert key account' ∧
    db'.ledger = db.ledger.insert id row' ∧
    account'.budgetUsed.units = account.budgetUsed.units + amount.units ∧
    row'.status = .settled ∧ row'.accountedCostUsd = some amount

section Branches

variable {key id : Uuid} {account : AccountRow} {existing : LedgerRow} {now : Nat}

theorem budgetUsed_suspendCount (status : BudgetLedgerStatus) (row : AccountRow) :
    (suspendCount status row).budgetUsed = row.budgetUsed := by
  unfold suspendCount
  split <;> rfl

theorem markUnresolved_suspends {observedCost : Option Usd} {reasons : List String}
    {usageFactId : Option Uuid} {terminalCommand : Option (String × String)}
    (hAccount : db.virtualKeys.lookup key = some account) :
    Ends (markUnresolved libs (account.intoSnapshot key) id existing observedCost reasons
        usageFactId terminalCommand now) db
      (fun _ db' => Suspended db key id account db') (OverflowsCounter db key) := by
  simp only [markUnresolved, ends_rules, raises_overflowsCounter local_checkedSettleRevision,
    raises_overflowsCounter local_intoRecord, overflowsCounter_corrupt, vacuous]
  intro newRevision hRevision
  obtain ⟨hRevisionFits, hTailFits⟩ := checkedSettleRevision_bounds hRevision
  refine ends_ensureCounted ?_ fun _ => overflowsCounter_corrupt
  refine ends_updateAccountRow_range hAccount (fun _ => rfl) (fun account' _ hChange => ?_)
    fun account' hChange hFull => ?_
  · obtain rfl := Option.some.inj hChange
    refine ends_updateLedger_range (fun row _ _ => ?_) fun _ => hRevisionFits
    exact fun _ _ => ⟨_, _, rfl, rfl, budgetUsed_suspendCount .., rfl, rfl⟩
  · obtain rfl := Option.some.inj hChange
    dsimp only at hFull
    unfold AccountRow.CountersFull
    have hTail : (account.intoSnapshot key).checkpointTailEvents =
        account.budgetCheckpointTailEvents := rfl
    unfold suspendCount at hFull
    split at hFull
    · dsimp only at hFull
      omega
    · omega

theorem settleApplied_charges {command : SettleBudgetIntent} {amount : Usd}
    (hAccount : db.virtualKeys.lookup command.virtualKeyId = some account) :
    Ends (settleApplied libs command (account.intoSnapshot command.virtualKeyId) existing amount
        now) db
      (fun _ db' => Charged db command.virtualKeyId command.intentId account amount db')
      (OverflowsCounter db command.virtualKeyId) := by
  simp only [settleApplied, ends_rules, raises_overflowsCounter local_checkedSettleRevision,
    raises_overflowsCounter local_intoRecord, overflowsCounter_corrupt, vacuous]
  intro newRevision hRevision
  obtain ⟨hRevisionFits, hTailFits⟩ := checkedSettleRevision_bounds hRevision
  refine ends_ensureCounted ?_ fun _ => overflowsCounter_corrupt
  refine ends_updateAccountRow_range hAccount (fun hGuard => ?_) (fun account' _ hChange => ?_)
    fun account' hChange hFull => ?_
  · -- the guard of the update leaves room for the sum
    simp only [Bool.and_eq_true, decide_eq_true_eq] at hGuard
    rw [Option.isSome_map]
    exact (Usd.isSome_add? _ _).mpr hGuard.2
  · obtain ⟨used, hUsed, rfl⟩ := Option.map_eq_some_iff.mp hChange
    refine ends_updateLedger_range (fun row _ _ => ?_) fun _ => hRevisionFits
    exact fun _ _ => ⟨_, _, rfl, rfl, units_of_add hUsed, rfl, rfl⟩
  · obtain ⟨used, -, rfl⟩ := Option.map_eq_some_iff.mp hChange
    dsimp only at hFull
    unfold AccountRow.CountersFull
    have hTail : (account.intoSnapshot command.virtualKeyId).checkpointTailEvents =
        account.budgetCheckpointTailEvents := rfl
    unfold releaseCount at hFull
    split at hFull
    · dsimp only at hFull
      omega
    · dsimp only at hFull
      omega

end Branches

/-! ## Settling -/

/-- The settlement charges this account for this open intent with this amount. -/
structure Charges (db : Db) (command : SettleBudgetIntent) (account : AccountRow)
    (existing : LedgerRow) (amount : Usd) : Prop where
  account : db.virtualKeys.lookup command.virtualKeyId = some account
  intent : db.ledger.lookup command.intentId = some existing
  isOpen : existing.status = .pending ∨ existing.status = .unresolved ∧
    existing.terminalOperationId = none ∧ existing.terminalCommandFingerprint = none
  available : command.cost.status ≠ .unavailable
  cost : normalizeCost command.cost = .ok (some amount)

/-- What a settlement commits: the exact sum where it fits, and otherwise the old amount. -/
structure SettlesExactly (db : Db) (command : SettleBudgetIntent) (db' : Db) : Prop where
  charged : ∀ account existing amount, Charges db command account existing amount →
    if account.budgetUsed.units + amount.units ≤ MAX_BUDGET_UNITS then
      Charged db command.virtualKeyId command.intentId account amount db'
    else Suspended db command.virtualKeyId command.intentId account db'
  kept : (¬ ∃ account existing amount, Charges db command account existing amount) →
    db' = db ∨ ∃ account, db.virtualKeys.lookup command.virtualKeyId = some account ∧
      Suspended db command.virtualKeyId command.intentId account db'

theorem MAX_BUDGET_UNITS_eq : MAX_BUDGET_UNITS = NUMERIC_BOUND - 1 := rfl

theorem SettlesExactly.of_unchanged
    (h : ¬ ∃ account existing amount, Charges db command account existing amount) :
    SettlesExactly db command db :=
  ⟨fun account existing amount hCharges => absurd ⟨account, existing, amount, hCharges⟩ h,
    fun _ => .inl rfl⟩

theorem normalizeCost_available {amount : Option Usd} (hAvailable : cost.status ≠ .unavailable)
    (h : normalizeCost cost = .ok amount) : ∃ charged, amount = some charged := by
  have hMapped : ∀ {value : Decimal}, ((normalizeBudgetAmount value).map some).mapError
      BudgetStoreError.corrupt = .ok amount → ∃ charged, amount = some charged := by
    intro value h
    cases hValue : normalizeBudgetAmount value with
    | error _ => rw [hValue] at h; cases h
    | ok charged => rw [hValue] at h; cases h; exact ⟨charged, rfl⟩
  unfold normalizeCost at h
  split at h
  · split at h
    · cases h
    · exact hMapped h
  · split at h
    · cases h
    · exact hMapped h
  · split at h
    · cases h
    · cases h; exact ⟨.zero, rfl⟩
  · next hStatus => exact absurd hStatus hAvailable

theorem settleOpen_exact {account : AccountRow}
    (hAccount : db.virtualKeys.lookup command.virtualKeyId = some account)
    (hExisting : db.ledger.lookup command.intentId = some existing)
    (hTerminal : ¬ (existing.status = .unresolved ∧
      (existing.terminalOperationId.isSome ∨ existing.terminalCommandFingerprint.isSome))) :
    Ends (settleOpen libs command (account.intoSnapshot command.virtualKeyId) existing now) db
      (fun _ db' => SettlesExactly db command db')
      (OverflowsCounter db command.virtualKeyId) := by
  simp only [settleOpen, ends_rules, ends_ite, raises_overflowsCounter local_normalizeCost,
    raises_overflowsCounter local_intoRecord, overflowsCounter_corrupt, vacuous]
  intro hStatus _ normalizedCost hCost
  refine ⟨fun hUnavailable => ?_, fun hAvailable => ?_⟩
  · have hNone : ¬ ∃ account existing amount, Charges db command account existing amount := by
      rintro ⟨_, _, _, hCharges⟩
      exact hCharges.available hUnavailable
    refine ⟨fun _ _ _ => .of_unchanged hNone, fun _ => ?_⟩
    refine ends_weaken (markUnresolved_suspends hAccount) fun _ _ hSuspended => ?_
    exact ⟨fun _ _ _ hCharges => absurd hUnavailable hCharges.available,
      fun _ => .inr ⟨account, hAccount, hSuspended⟩⟩
  · obtain ⟨amount, rfl⟩ := normalizeCost_available hAvailable hCost
    have hIsOpen : existing.status = .pending ∨ existing.status = .unresolved ∧
        existing.terminalOperationId = none ∧ existing.terminalCommandFingerprint = none := by
      obtain hPending | hUnresolved := hStatus
      · exact .inl hPending
      · rw [not_and_or, not_or] at hTerminal
        obtain hOther | ⟨hOperation, hFingerprint⟩ := hTerminal
        · exact absurd hUnresolved hOther
        · exact .inr ⟨hUnresolved, by simpa using hOperation, by simpa using hFingerprint⟩
    have hCharges : Charges db command account existing amount :=
      ⟨hAccount, hExisting, hIsOpen, hAvailable, hCost⟩
    have hOnly : ∀ {account' existing' amount'}, Charges db command account' existing' amount' →
        account' = account ∧ amount' = amount := by
      intro account' existing' amount' hOther
      exact ⟨Option.some.inj (hOther.account.symm.trans hAccount),
        Option.some.inj (Except.ok.inj (hOther.cost.symm.trans hCost))⟩
    have hKept : ∀ db', (¬ ∃ account existing amount, Charges db command account existing amount) →
        db' = db ∨ ∃ account, db.virtualKeys.lookup command.virtualKeyId = some account ∧
          Suspended db command.virtualKeyId command.intentId account db' :=
      fun _ hNone => absurd ⟨account, existing, amount, hCharges⟩ hNone
    have hClass := Usd.isSome_add? account.budgetUsed amount
    have hAmount := amount.inRange
    split
    · next hOver =>
      change account.budgetUsed.checkedAdd amount = none at hOver
      rw [Usd.checkedAdd_eq_add?] at hOver
      rw [hOver, ← MAX_BUDGET_UNITS_eq] at hClass
      have hLarge : ¬ account.budgetUsed.units + amount.units ≤ MAX_BUDGET_UNITS :=
        fun hLe => Bool.false_ne_true (hClass.mpr (Nat.le_sub_of_add_le hLe))
      rw [ends_bind]
      refine ends_weaken (markUnresolved_suspends hAccount) fun _ db' hSuspended => ?_
      refine ⟨fun _ _ _ hOther => ?_, hKept db'⟩
      obtain ⟨rfl, rfl⟩ := hOnly hOther
      rw [if_neg hLarge]
      exact hSuspended
    · next sum hSum =>
      change account.budgetUsed.checkedAdd amount = some sum at hSum
      have hUnits := Usd.units_of_checkedAdd hSum
      have hInRange := sum.inRange
      have hSmall : account.budgetUsed.units + amount.units ≤ MAX_BUDGET_UNITS := by
        rw [MAX_BUDGET_UNITS_eq]
        omega
      refine ends_weaken (settleApplied_charges hAccount) fun _ db' hCharged => ?_
      refine ⟨fun _ _ _ hOther => ?_, hKept db'⟩
      obtain ⟨rfl, rfl⟩ := hOnly hOther
      rw [if_pos hSmall]
      exact hCharged

/-- Every settlement stores the exact sum, or leaves the amount and suspends the intent. -/
theorem settle_exactly {store : PgBudgetStore} :
    Ends (settle libs store command now) db (fun _ db' => SettlesExactly db command db')
      (OverflowsCounter db command.virtualKeyId) := by
  simp only [settle, ends_rules, raises_overflowsCounter local_validateSettleCommand, vacuous]
  intro _ _
  refine ends_beginWrite ?_ fun _ => overflowsCounter_corrupt
  rw [ends_lockAccount]
  split
  · next hAbsent =>
    simp only [settleDeleted, ends_rules, ends_lockIntentById,
      raises_overflowsCounter local_verifySettleIdentity,
      raises_overflowsCounter local_terminalDisposition, raises_overflowsCounter local_intoRecord,
      overflowsCounter_corrupt, vacuous]
    intro existing _ _ _ _ _ _ _
    refine .of_unchanged ?_
    rintro ⟨account, _, _, hCharges⟩
    have hFound := hAbsent.symm.trans hCharges.account
    cases hFound
  · next account hAccount =>
    simp only [ends_rules, ends_lockIntentById, ends_ite,
      raises_overflowsCounter local_validateAccountInvariants,
      raises_overflowsCounter local_verifySettleIdentity,
      raises_overflowsCounter local_terminalDisposition, raises_overflowsCounter local_intoRecord,
      overflowsCounter_corrupt, vacuous]
    intro _ _ existing hExisting _ _
    refine ⟨fun hTerminal _ _ _ => .of_unchanged ?_, fun hTerminal =>
      ⟨fun hClosed _ _ _ _ => .of_unchanged ?_,
        fun _ => settleOpen_exact hAccount hExisting hTerminal⟩⟩
    · rintro ⟨_, _, _, hCharges⟩
      obtain rfl := Option.some.inj (hExisting.symm.trans hCharges.intent)
      obtain hPending | ⟨_, hOperation, hFingerprint⟩ := hCharges.isOpen
      · rw [hTerminal.1] at hPending
        cases hPending
      · rw [hOperation, hFingerprint] at hTerminal
        simp at hTerminal
    · rintro ⟨_, _, _, hCharges⟩
      obtain rfl := Option.some.inj (hExisting.symm.trans hCharges.intent)
      obtain hPending | ⟨hUnresolved, _⟩ := hCharges.isOpen
      · rw [hPending] at hClosed
        simp at hClosed
      · rw [hUnresolved] at hClosed
        simp at hClosed

/-- The sum a settlement stores is exact or not stored. For decimals of any scale the amounts the
code computes with are their exact values, and the test in Rust, the guard of the update and the
sum in SQL agree on every pair; the test does not depend on the scale of its operands. -/
theorem settle_exact (libs : External) (store : PgBudgetStore) (db : Db)
    (command : SettleBudgetIntent) (now : Nat) :
    Ends (settle libs store command now) db (fun _ db' => SettlesExactly db command db')
        (OverflowsCounter db command.virtualKeyId) ∧
      ∀ (x y : Decimal) (used amount : Usd), normalizeBudgetAmount x = .ok used →
        normalizeBudgetAmount y = .ok amount →
        used.IsValueOf x ∧ amount.IsValueOf y ∧
        ((used.checkedAdd amount).isSome ↔ used.units ≤ MAX_BUDGET_UNITS - amount.units) ∧
        ((used.add? amount).isSome ↔ used.units ≤ MAX_BUDGET_UNITS - amount.units) ∧
        (x.scale ≤ 12 → y.scale ≤ 12 →
          ((x.checkedAdd y).bind fun value => (normalizeBudgetAmount value).toOption) =
            used.checkedAdd amount) := by
  refine ⟨settle_exactly, fun x y used amount hx hy => ?_⟩
  rw [normalizeBudgetAmount_eq_ok] at hx hy
  rw [Usd.checkedAdd_eq_add?, MAX_BUDGET_UNITS_eq]
  exact ⟨hx, hy, Usd.isSome_add? used amount, Usd.isSome_add? used amount,
    checkedAdd_of_isValueOf hx hy⟩

end KongRust.Budget
