import KongRust.Budget.Lifecycle

/-!
# Revisions and the tail of an account

The revision of an account is the cut between its latest checkpoint and the settled rows that the
next checkpoint has to add. The tail counter bounds how many such rows there are: every effect that
settles a row counts it, and only a checkpoint, past which no row lies, resets the counter. When
the counter reaches the hard tail of the deployment, no intent is created.
-/

namespace KongRust.Budget

open Transaction

/-! ## The tail counter -/

def Db.tailRows (db : Db) (virtualKeyId : Uuid) : Nat :=
  match db.latestCheckpoint virtualKeyId with
  | none => db.countRows virtualKeyId fun row => row.status == .settled
  | some (revision, _) => db.countRows virtualKeyId (isTail revision)

/-- Every account counts at least the settled rows past its latest checkpoint. -/
def TailCovered (db : Db) : Prop :=
  ∀ key account, db.virtualKeys.lookup key = some account →
    db.tailRows key ≤ account.budgetCheckpointTailEvents

section Effects

variable {db db' : Db} {key : Uuid} {account account' : AccountRow} {olds news : List LedgerRow}

variable {key' : Uuid} {accounts : AList fun _ : Uuid => AccountRow} {revision : Nat}
  {row : CheckpointRow}

theorem Posting.countRows_ne (hPosting : Posting db db' key account account' olds news)
    (hKey : key' ≠ key) (cond : LedgerRow → Bool) :
    db'.countRows key' cond = db.countRows key' cond := by
  unfold Db.countRows
  exact hPosting.total_ne hKey fun row hRow => by simp [hRow]

theorem TailCovered.post (h : TailCovered db) (hConsistent : Consistent db)
    (hPosting : Posting db db' key account account' olds news)
    (hTail : account.budgetCheckpointTailEvents + (news.map (LedgerRow.inState .settled)).sum ≤
      account'.budgetCheckpointTailEvents) : TailCovered db' := by
  intro key' found hFound
  rw [Db.tailRows, latestCheckpoint_congr hPosting.checkpoints]
  obtain ⟨rfl, rfl⟩ | ⟨hKey, hOld⟩ := hPosting.lookup hFound
  · obtain ⟨revision, checkpoint, hLatest, hLe⟩ := hConsistent.exists_latest hPosting.found
    have hBefore := h key' account hPosting.found
    have hCount := countTail_edit revision hPosting.edit hPosting.oldStatus fun row hRow =>
      ⟨hPosting.newKey row hRow, by have := hPosting.newRevision row hRow; omega⟩
    simp only [Db.tailRows, hLatest] at hBefore ⊢
    omega
  · have hBefore := h key' found hOld
    rw [Db.tailRows] at hBefore
    split at hBefore <;> simpa only [hPosting.countRows_ne hKey] using hBefore

theorem tailRows_dispatch {id : Uuid} {row row' : LedgerRow}
    (hFound : db.ledger.lookup id = some row) (hStatus : row.status = .pending)
    (hStatus' : row'.status = .pending) :
    { db with ledger := db.ledger.insert id row' }.tailRows key = db.tailRows key := by
  have hTotal : ∀ cond : LedgerRow → Bool, (∀ row : LedgerRow, row.status = .pending →
      cond row = false) →
      { db with ledger := db.ledger.insert id row' }.countRows key cond =
        db.countRows key cond := by
    intro cond hCond
    have hMoved := (Table.Edit.replace (w := row') hFound).total
      (fun row => if row.virtualKeyId = key ∧ cond row then 1 else 0)
    unfold Db.countRows
    simpa [hCond row hStatus, hCond row' hStatus'] using hMoved
  unfold Db.tailRows
  have hLatest : { db with ledger := db.ledger.insert id row' }.latestCheckpoint key =
      db.latestCheckpoint key := rfl
  rw [hLatest]
  split
  · exact hTotal _ fun row hRow => by simp [hRow]
  · exact hTotal _ fun row hRow => by simp [isTail, hRow]

theorem tailRows_checkpoint (hFresh : db.checkpoints.lookup (key, revision) = none)
    (hLater : ∀ revision' row', db.checkpoints.lookup (key, revision') = some row' →
      revision' ≤ revision)
    (hRows : ∀ id row, db.ledger.lookup id = some row → row.virtualKeyId = key →
      row.lastAccountRevision ≤ revision) :
    { db with
      virtualKeys := accounts
      checkpoints := db.checkpoints.insert (key, revision) row }.tailRows key = 0 := by
  simp only [Db.tailRows, latestCheckpoint_insert hFresh hLater]
  exact tail_eq_zero hRows

theorem tailRows_checkpoint_ne (hFresh : db.checkpoints.lookup (key, revision) = none)
    (hKey : key ≠ key') :
    { db with
      virtualKeys := accounts
      checkpoints := db.checkpoints.insert (key, revision) row }.tailRows key' =
        db.tailRows key' := by
  rw [Db.tailRows, latestCheckpoint_insert_ne hFresh hKey]
  rfl

/-- Every effect keeps the tail covered. -/
theorem Effect.tailCovered (hEffect : Effect db db') (hConsistent : Consistent db)
    (h : TailCovered db) : TailCovered db' := by
  induction hEffect with
  | @quiet db db' hAccounts hLedger hCheckpoints =>
    intro key found hFound
    have hSame : db'.tailRows key = db.tailRows key := by
      simp only [Db.tailRows, Db.countRows, latestCheckpoint_congr hCheckpoints, hLedger]
    rw [hSame]
    exact h key found (hAccounts ▸ hFound)
  | dispatched hFound hStatus hFollows hStatus' _ =>
    intro key found hLookup
    rw [tailRows_dispatch hFound hStatus hStatus']
    exact h key found hLookup
  | posted hPosting hTail => exact h.post hConsistent hPosting hTail
  | @checkpointed db key account account' row hFound hFresh _ _ _ _ _ _ =>
    intro key' found hLookup
    by_cases hKey : key = key'
    · subst hKey
      rw [tailRows_checkpoint hFresh
        (fun revision' row' hRow' => hConsistent.checkpointRevision key revision' row' account
          hRow' hFound)
        (fun id ledgerRow hRow hRowKey => hConsistent.rowRevision id ledgerRow account hRow
          (hRowKey ▸ hFound))]
      exact Nat.zero_le _
    · rw [tailRows_checkpoint_ne hFresh hKey]
      rw [AList.lookup_insert_ne (Ne.symm hKey)] at hLookup
      exact h key' found hLookup
  | @created db key account row hFresh _ _ _ _ =>
    intro key' found hLookup
    by_cases hKey : key = key'
    · subst hKey
      rw [tailRows_checkpoint hFresh (fun revision' row' hRow' =>
          absurd hFresh (hConsistent.checkpointGenesis key revision' row' hRow'))
        (fun id ledgerRow hRow hRowKey => absurd hRowKey (hConsistent.no_rows hFresh hRow))]
      exact Nat.zero_le _
    · rw [tailRows_checkpoint_ne hFresh hKey]
      rw [AList.lookup_insert_ne (Ne.symm hKey)] at hLookup
      exact h key' found hLookup
  | @deleted db key =>
    intro key' found hLookup
    by_cases hKey : key' = key
    · subst hKey
      rw [AList.lookup_erase] at hLookup
      cases hLookup
    · rw [AList.lookup_erase_ne hKey] at hLookup
      exact h key' found hLookup
  | trans hFirst _ ihFirst ihSecond =>
    exact ihSecond (hFirst.consistent hConsistent) (ihFirst hConsistent h)

end Effects

/-! ## Runs -/

section Runs

variable {libs : External} {sys : System}

theorem System.Migrated.tailCovered (h : sys.Migrated) : TailCovered sys.db := by
  intro key account hFound
  obtain ⟨revision, checkpoint, hLatest, -⟩ := h.invariant.consistent.exists_latest hFound
  have hRevision := (h.checkpoints key revision checkpoint (lookup_of_latestCheckpoint hLatest)).1
  simp only [Db.tailRows, hLatest]
  have hNone : sys.db.countRows key (isTail revision) = 0 :=
    tail_eq_zero fun id row hRow _ => by rw [(h.row hRow).2.2, hRevision]
  rw [hNone]
  exact Nat.zero_le _

theorem TailCovered.run (h : TailCovered sys.db) (hInvariant : sys.Invariant) (calls : List Call) :
    TailCovered (runCalls libs sys calls).db := by
  induction calls generalizing sys with
  | nil => exact h
  | cons call calls ih =>
    exact ih (((perform_move call).effect hInvariant).tailCovered hInvariant.consistent h)
      (hInvariant.perform call)

theorem revision_run (calls : List Call) {key : Uuid} {found : AccountRow}
    (hGenesis : sys.db.checkpoints.lookup (key, 0) ≠ none)
    (hFound : (runCalls libs sys calls).db.virtualKeys.lookup key = some found) :
    ∃ before, sys.db.virtualKeys.lookup key = some before ∧
      before.budgetAccountingRevision ≤ found.budgetAccountingRevision := by
  induction calls generalizing sys with
  | nil => exact ⟨found, hFound, le_rfl⟩
  | cons call calls ih =>
    obtain ⟨middle, hMiddle, hLater⟩ := ih ((perform_move call).checkpoint_kept hGenesis) hFound
    obtain ⟨before, hBefore, hAdvances⟩ := (perform_move call).advances hGenesis hMiddle
    refine ⟨before, hBefore, ?_⟩
    rcases hAdvances with hLt | ⟨hEq, -⟩ <;> omega

/-- **Revisions and tails.** In every run, the tail counter of an account bounds its settled rows
past the latest checkpoint, no row of the account is past its revision, the revision never goes
back and goes on whenever the used amount changes, and a new intent is created by nothing but a
creation for an account whose tail is below the hard tail of the deployment. -/
theorem tail_and_revisions (hMigrated : sys.Migrated) (calls : List Call) {before : System}
    (hBefore : before = runCalls libs sys calls) :
    (∀ key account, before.db.virtualKeys.lookup key = some account →
      before.db.tailRows key ≤ account.budgetCheckpointTailEvents ∧
      (∀ id row, before.db.ledger.lookup id = some row → row.virtualKeyId = key →
        row.lastAccountRevision ≤ account.budgetAccountingRevision) ∧
      (∀ later account', (runCalls libs before later).db.virtualKeys.lookup key = some account' →
        account.budgetAccountingRevision ≤ account'.budgetAccountingRevision) ∧
      (∀ call account', (perform libs before call).db.virtualKeys.lookup key = some account' →
        account'.budgetUsed ≠ account.budgetUsed →
        account.budgetAccountingRevision < account'.budgetAccountingRevision)) ∧
    (∀ call id row, before.db.ledger.lookup id = none →
      (perform libs before call).db.ledger.lookup id = some row → row.kind = .request →
      ∃ store command now account settings, call = .createIntent store command now ∧
        row.virtualKeyId = command.virtualKeyId ∧
        before.db.virtualKeys.lookup command.virtualKeyId = some account ∧
        before.db.runtimeSettings.lookup store.config.deploymentNamespace = some settings ∧
        account.budgetCheckpointTailEvents < settings.checkpointHardTailEvents) := by
  have hInvariant : before.Invariant := hBefore ▸ hMigrated.invariant.run libs calls
  have hCovered : TailCovered before.db :=
    hBefore ▸ hMigrated.tailCovered.run hMigrated.invariant calls
  refine ⟨fun key account hFound => ⟨hCovered key account hFound, ?_, ?_, ?_⟩, ?_⟩
  · rintro id row hRow rfl
    exact hInvariant.consistent.rowRevision id row account hRow hFound
  · intro later account' hFound'
    obtain ⟨start, hStart, hLe⟩ :=
      revision_run later (hInvariant.consistent.accountGenesis key account hFound) hFound'
    obtain rfl : account = start := Option.mem_unique hFound hStart
    exact hLe
  · intro call account' hFound' hChanged
    obtain ⟨start, hStart, hAdvances⟩ := (perform_move call).advances
      (hInvariant.consistent.accountGenesis key account hFound) hFound'
    obtain rfl : account = start := Option.mem_unique hFound hStart
    rcases hAdvances with hLt | ⟨-, hUsed, -⟩
    · exact hLt
    · exact absurd hUsed hChanged
  · intro call id row hAbsent hRow hKind
    cases (perform_turns libs before call).new id row hAbsent hRow with
    | intent _ hAccount hSettings hTail _ _ =>
      exact ⟨_, _, _, _, _, rfl, rfl, hAccount, hSettings, hTail⟩
    | other hOther => exact absurd hKind hOther

/-- At the end of the sample run one settled row is past the checkpoint, and the counter of the
account covers it. -/
theorem tail_and_revisions_sample : ∃ account,
    (runCalls sampleExternal sampleSystem sampleCalls).db.virtualKeys.lookup 1 = some account ∧
      account.budgetCheckpointTailEvents = 3 ∧
      (runCalls sampleExternal sampleSystem sampleCalls).db.tailRows 1 ≤
        account.budgetCheckpointTailEvents := by
  obtain ⟨account, hFound, hFields⟩ := Option.map_eq_some_iff.mp sampleRun_end.1
  exact ⟨account, hFound, congrArg (fun stored => stored.2.2.2.1) hFields,
    ((tail_and_revisions sampleSystem_migrated sampleCalls rfl).1 1 account hFound).1⟩

end Runs

end KongRust.Budget
