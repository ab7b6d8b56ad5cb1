import KongRust.Budget.ExactlyOnce

/-!
# Open rows and their accounts

An account is deleted only when none of its rows is open, so every open row of a reachable system
has its account, and the counter of its status counts it.
-/

namespace KongRust.Budget

open Transaction

variable {libs : External} {sys : System} {subject : Subject} {db' : Db} {key id : Uuid}
  {account : AccountRow} {row : LedgerRow} {ledger : Ledger}
  {accounts : AList fun _ : Uuid => AccountRow}

/-- No open row has lost its account. -/
def Attached (accounts : AList fun _ : Uuid => AccountRow) (ledger : Ledger) : Prop :=
  ∀ id row, ledger.lookup id = some row → isOpen row → accounts.lookup row.virtualKeyId ≠ none

namespace Attached

theorem write (h : Attached accounts ledger) :
    Attached (accounts.insert key account) ledger := fun id row hRow hOpen =>
  Table.lookup_insert_ne_none (h id row hRow hOpen)

theorem insert (h : Attached accounts ledger) (hAccount : accounts.lookup row.virtualKeyId ≠ none) :
    Attached accounts (ledger.insert id row) := by
  intro id' row' hRow hOpen
  obtain ⟨-, rfl⟩ | ⟨-, hOld⟩ := Table.lookup_insert_cases hRow
  · exact hAccount
  · exact h id' row' hOld hOpen

theorem post (h : Attached (accounts.insert key account) ledger) (hKey : row.virtualKeyId = key) :
    Attached (accounts.insert key account) (ledger.insert id row) :=
  h.insert (by simp [hKey])

end Attached

/-- The counter of its status counts an open row. -/
theorem Consistent.counted {db : Db} (h : Consistent db) (hRow : db.ledger.lookup id = some row)
    (hOpen : isOpen row) (hFound : db.virtualKeys.lookup row.virtualKeyId = some account) :
    0 < openCount row.status account := by
  have hLe := Table.weight_le_total (fun other => if other.virtualKeyId = row.virtualKeyId ∧
    (other.status == row.status) = true then 1 else 0) hRow
  rw [if_pos (by simp)] at hLe
  rcases isOpen_iff.mp hOpen with hStatus | hStatus <;> rw [hStatus] at hLe ⊢
  · exact hLe.trans_eq (h.pending _ _ hFound).symm
  · exact hLe.trans_eq (h.unresolved _ _ hFound).symm

/-- **Step.** Every move keeps the open rows attached: an account is only deleted when none of its
rows is open. -/
theorem Move.attached (hMove : Move libs sys subject db') (hConsistent : Consistent sys.db)
    (h : Attached sys.db.virtualKeys sys.db.ledger) : Attached db'.virtualKeys db'.ledger := by
  cases hMove with
  | quiet hAccounts hLedger => rwa [hAccounts, hLedger]
  | opened _ hAppends | flagged _ hAppends => exact h.write.post hAppends.virtualKeyId
  | dispatched hFound hStatus hFollows =>
    exact h.insert (hFollows.virtualKeyId ▸ h _ _ hFound (by simp [isOpen, hStatus]))
  | settled _ hRewrites | suspended _ hRewrites => exact h.write.post hRewrites.key'
  | reconciled _ hRewrites hAppends =>
    exact (h.write.post hAppends.virtualKeyId).post hRewrites.key'
  | attempted _ hRewrites hAppends =>
    exact (h.write.post hRewrites.key').post hAppends.virtualKeyId
  | checkpointed | created | edited => exact h.write
  | rebuilt _ _ _ hAppends =>
    intro id row hRow hOpen
    rw [Table.lookup_update, Option.map_eq_some_iff] at hRow
    obtain ⟨old, hOld, rfl⟩ := hRow
    split at hOpen
    · cases hOpen
    · next hKept =>
      rw [if_neg hKept]
      exact h.write.post hAppends.virtualKeyId id old hOld hOpen
  | @deleted key account hFound hPending hUnresolved =>
    intro id row hRow hOpen
    have hOther : row.virtualKeyId ≠ key := by
      rintro rfl
      have hCounted := hConsistent.counted hRow hOpen hFound
      simp [openCount, hPending, hUnresolved] at hCounted
    rw [AList.lookup_erase_ne hOther]
    exact h id row hRow hOpen

theorem Attached.run (h : Attached sys.db.virtualKeys sys.db.ledger) (hInvariant : sys.Invariant)
    (calls : List Call) : Attached (runCalls libs sys calls).db.virtualKeys
      (runCalls libs sys calls).db.ledger := by
  induction calls generalizing sys with
  | nil => exact h
  | cons call calls ih =>
    exact ih ((perform_move call).attached hInvariant.consistent h) (hInvariant.perform call)

/-- **Open rows.** In every run, an open row has its account, in the workspace of the row and not
behind its revision, and the counter of its status counts it: what settles, recovers or reconciles
the row finds the account and takes nothing from a counter at zero. -/
theorem open_rows_counted (hMigrated : sys.Migrated) (libs : External) (calls : List Call) {db : Db}
    (hDb : db = (runCalls libs sys calls).db) (hRow : db.ledger.lookup id = some row)
    (hOpen : isOpen row) :
    ∃ account, db.virtualKeys.lookup row.virtualKeyId = some account ∧
      row.workspaceId = account.wsId ∧
      row.lastAccountRevision ≤ account.budgetAccountingRevision ∧
      0 < openCount row.status account := by
  subst hDb
  have hConsistent := (hMigrated.invariant.run libs calls).consistent
  have hAttached : Attached sys.db.virtualKeys sys.db.ledger := fun id row hRow hOpen => by
    simp [isOpen, (hMigrated.row hRow).1] at hOpen
  obtain ⟨account, hFound⟩ := Option.ne_none_iff_exists'.mp
    (hAttached.run hMigrated.invariant calls id row hRow hOpen)
  exact ⟨account, hFound, hConsistent.rowWorkspace id row account hRow hFound,
    hConsistent.rowRevision id row account hRow hFound, hConsistent.counted hRow hOpen hFound⟩

theorem open_rows_counted_sample : ∃ (db : Db) (row : LedgerRow) (account : AccountRow),
    db.ledger.lookup 5 = some row ∧ db.virtualKeys.lookup row.virtualKeyId = some account ∧
      0 < openCount row.status account := by
  obtain ⟨row, hRow, hView⟩ := Option.map_eq_some_iff.mp sampleRun_settlement.1
  obtain ⟨account, hFound, -, -, hCounted⟩ :=
    open_rows_counted sampleSystem_migrated _ _ rfl hRow (by simp_all [isOpen])
  exact ⟨_, row, account, hRow, hFound, hCounted⟩

end KongRust.Budget
