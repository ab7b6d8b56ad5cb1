import KongRust.Budget.Refinement

/-!
# The ledger and its accounts agree

An account stores what its ledger rows add up to: how many are pending, how many are unresolved,
and how much was charged since the latest checkpoint. `Consistent` is that agreement, with the
facts about revisions that make it inductive; every move keeps it, so it holds in every reachable
state.
-/

namespace KongRust.Budget

open Transaction Table

/-! ## What an account should store -/

def Db.rowsIn (db : Db) (virtualKeyId : Uuid) (status : BudgetLedgerStatus) : Nat :=
  db.countRows virtualKeyId fun row => row.status == status

/-- The latest checkpoint and the settled costs past its revision. -/
def Db.derivedUsed (db : Db) (virtualKeyId : Uuid) : Nat :=
  match db.latestCheckpoint virtualKeyId with
  | none => db.sumCosts virtualKeyId fun row => row.status == .settled
  | some (revision, checkpoint) =>
    checkpoint.accountedCostUsd.units + db.sumCosts virtualKeyId (isTail revision)

/-- Accounts, ledger and checkpoints agree. -/
structure Consistent (db : Db) : Prop where
  pending : ∀ key account, db.virtualKeys.lookup key = some account →
    account.budgetPendingCount = db.rowsIn key .pending
  unresolved : ∀ key account, db.virtualKeys.lookup key = some account →
    account.budgetUnresolvedCount = db.rowsIn key .unresolved
  used : ∀ key account, db.virtualKeys.lookup key = some account →
    account.budgetUsed.units = db.derivedUsed key
  rowRevision : ∀ id row account, db.ledger.lookup id = some row →
    db.virtualKeys.lookup row.virtualKeyId = some account →
    row.lastAccountRevision ≤ account.budgetAccountingRevision
  rowWorkspace : ∀ id row account, db.ledger.lookup id = some row →
    db.virtualKeys.lookup row.virtualKeyId = some account → row.workspaceId = account.wsId
  checkpointRevision : ∀ key revision checkpoint account,
    db.checkpoints.lookup (key, revision) = some checkpoint →
    db.virtualKeys.lookup key = some account → revision ≤ account.budgetAccountingRevision
  accountGenesis : ∀ key account, db.virtualKeys.lookup key = some account →
    db.checkpoints.lookup (key, 0) ≠ none
  rowGenesis : ∀ id row, db.ledger.lookup id = some row →
    db.checkpoints.lookup (row.virtualKeyId, 0) ≠ none
  checkpointGenesis : ∀ key revision checkpoint,
    db.checkpoints.lookup (key, revision) = some checkpoint →
    db.checkpoints.lookup (key, 0) ≠ none
  checked : ∀ id row, db.ledger.lookup id = some row → row.kindStatusValid

/-! ## Checkpoints -/

section Checkpoints

variable {db : Db} {key key' : Uuid} {revision : Nat} {row : CheckpointRow}

theorem mem_checkpointsOf {entry : Nat × CheckpointRow} :
    entry ∈ db.checkpointsOf key ↔ db.checkpoints.lookup (key, entry.1) = some entry.2 := by
  rw [lookup_eq_some_iff, Db.checkpointsOf, List.mem_filterMap]
  constructor
  · rintro ⟨⟨⟨key', revision⟩, row⟩, hMem, hEntry⟩
    split at hEntry
    · next hKey =>
      cases hEntry
      obtain rfl : key' = key := hKey
      exact hMem
    · cases hEntry
  · intro hMem
    exact ⟨_, hMem, by simp⟩

theorem latestCheckpoint_congr {db' : Db} (h : db'.checkpoints = db.checkpoints) (key : Uuid) :
    db'.latestCheckpoint key = db.latestCheckpoint key := by
  simp only [Db.latestCheckpoint, Db.checkpointsOf, h]

theorem lookup_of_latestCheckpoint (h : db.latestCheckpoint key = some (revision, row)) :
    db.checkpoints.lookup (key, revision) = some row :=
  mem_checkpointsOf.mp (List.argmax_mem h)

theorem latestCheckpoint_ne_none (h : db.checkpoints.lookup (key, revision) = some row) :
    db.latestCheckpoint key ≠ none := by
  intro hNone
  have hEmpty := List.argmax_eq_none.mp hNone
  have hMem : (revision, row) ∈ db.checkpointsOf key := mem_checkpointsOf.mpr h
  rw [hEmpty] at hMem
  cases hMem

variable {accounts : AList fun _ : Uuid => AccountRow}

section

variable (hFresh : db.checkpoints.lookup (key, revision) = none)
include hFresh

theorem checkpointsOf_insert (key' : Uuid) :
    { db with
      virtualKeys := accounts
      checkpoints := db.checkpoints.insert (key, revision) row }.checkpointsOf key' =
        if key = key' then (revision, row) :: db.checkpointsOf key' else db.checkpointsOf key' := by
  have hEntries := AList.entries_insert_of_notMem (b := row) (AList.lookup_eq_none.mp hFresh)
  simp only [Db.checkpointsOf, hEntries, List.filterMap_cons]
  split <;> split <;> simp_all

theorem latestCheckpoint_insert
    (hLater : ∀ revision' row', db.checkpoints.lookup (key, revision') = some row' →
      revision' ≤ revision) :
    { db with
      virtualKeys := accounts
      checkpoints := db.checkpoints.insert (key, revision) row }.latestCheckpoint key =
        some (revision, row) := by
  rw [Db.latestCheckpoint, checkpointsOf_insert hFresh, if_pos rfl, List.argmax_cons]
  cases hLatest : (db.checkpointsOf key).argmax Prod.fst with
  | none => rfl
  | some latest =>
    have hLe := hLater latest.1 latest.2 (mem_checkpointsOf.mp (List.argmax_mem hLatest))
    simp only
    rw [if_neg (by omega)]

theorem latestCheckpoint_insert_ne (hKey : key ≠ key') :
    { db with
      virtualKeys := accounts
      checkpoints := db.checkpoints.insert (key, revision) row }.latestCheckpoint key' =
        db.latestCheckpoint key' := by
  rw [Db.latestCheckpoint, checkpointsOf_insert hFresh, if_neg hKey, Db.latestCheckpoint]

end

theorem derivedUsed_insert (hFresh : db.checkpoints.lookup (key, revision) = none)
    (hLater : ∀ revision' row', db.checkpoints.lookup (key, revision') = some row' →
      revision' ≤ revision) (hTail : db.sumCosts key (isTail revision) = 0) :
    { db with
      virtualKeys := accounts
      checkpoints := db.checkpoints.insert (key, revision) row }.derivedUsed key =
        row.accountedCostUsd.units := by
  simp only [Db.derivedUsed, latestCheckpoint_insert hFresh hLater]
  exact Nat.add_eq_left.mpr hTail

theorem derivedUsed_insert_ne (hFresh : db.checkpoints.lookup (key, revision) = none)
    (hKey : key ≠ key') :
    { db with
      virtualKeys := accounts
      checkpoints := db.checkpoints.insert (key, revision) row }.derivedUsed key' =
        db.derivedUsed key' := by
  rw [Db.derivedUsed, latestCheckpoint_insert_ne hFresh hKey]
  rfl

end Checkpoints

/-! ## Rows and their weights -/

def LedgerRow.charge (row : LedgerRow) : Nat :=
  if row.status = .settled then (row.accountedCostUsd.map Usd.units).getD 0 else 0

def LedgerRow.inState (status : BudgetLedgerStatus) (row : LedgerRow) : Nat :=
  if row.status = status then 1 else 0

section Edits

variable {db db' : Db} {key : Uuid} {olds news : List LedgerRow} {weight : LedgerRow → Nat}

theorem sum_map_congr {weight' : LedgerRow → Nat} {rows : List LedgerRow}
    (h : ∀ row ∈ rows, weight row = weight' row) :
    (rows.map weight).sum = (rows.map weight').sum := by
  rw [List.map_congr_left h]

theorem rowsIn_edit (hEdit : Edit db.ledger db'.ledger olds news)
    (hOlds : ∀ row ∈ olds, row.virtualKeyId = key) (hNews : ∀ row ∈ news, row.virtualKeyId = key)
    (status : BudgetLedgerStatus) :
    db'.rowsIn key status + (olds.map (LedgerRow.inState status)).sum =
      (news.map (LedgerRow.inState status)).sum + db.rowsIn key status := by
  have hTotal := hEdit.total fun row =>
    if row.virtualKeyId = key ∧ (row.status == status) = true then 1 else 0
  have hState : ∀ row : LedgerRow, row.virtualKeyId = key →
      (if row.virtualKeyId = key ∧ (row.status == status) = true then 1 else 0) =
        row.inState status := by
    intro row hKey
    simp [LedgerRow.inState, hKey]
  rw [sum_map_congr fun row hRow => hState row (hOlds row hRow),
    sum_map_congr fun row hRow => hState row (hNews row hRow)] at hTotal
  exact hTotal

section

variable (weight : LedgerRow → Nat) (revision : Nat) (hEdit : Edit db.ledger db'.ledger olds news)
  (hOlds : ∀ row ∈ olds, row.status ≠ .settled)
  (hNews : ∀ row ∈ news, row.virtualKeyId = key ∧ revision < row.lastAccountRevision)
include hEdit hOlds hNews

/-- How an edit of the rows of one account moves a sum over the settled rows past a revision, when
the rows it takes out were never settled and the rows it puts in are past the revision. -/
theorem tail_edit :
    total (fun row => if row.virtualKeyId = key ∧ isTail revision row = true then weight row
        else 0) db'.ledger =
      (news.map fun row => if row.status = .settled then weight row else 0).sum +
        total (fun row => if row.virtualKeyId = key ∧ isTail revision row = true then
          weight row else 0) db.ledger := by
  have hTotal := hEdit.total fun row =>
    if row.virtualKeyId = key ∧ isTail revision row = true then weight row else 0
  have hOut : (olds.map fun row =>
      if row.virtualKeyId = key ∧ isTail revision row = true then weight row else 0).sum = 0 := by
    refine List.sum_eq_zero fun n hn => ?_
    obtain ⟨row, hRow, rfl⟩ := List.mem_map.mp hn
    simp [isTail, hOlds row hRow]
  have hIn : (news.map fun row =>
      if row.virtualKeyId = key ∧ isTail revision row = true then weight row else 0).sum =
      (news.map fun row => if row.status = .settled then weight row else 0).sum := by
    refine sum_map_congr fun row hRow => ?_
    obtain ⟨hKey, hLater⟩ := hNews row hRow
    simp [isTail, hKey, hLater]
  rw [hOut, hIn, Nat.add_zero] at hTotal
  exact hTotal

theorem sumCosts_edit :
    db'.sumCosts key (isTail revision) =
      (news.map LedgerRow.charge).sum + db.sumCosts key (isTail revision) :=
  tail_edit _ revision hEdit hOlds hNews

theorem countTail_edit :
    db'.countRows key (isTail revision) =
      (news.map (LedgerRow.inState .settled)).sum + db.countRows key (isTail revision) :=
  tail_edit _ revision hEdit hOlds hNews

end

theorem total_edit_ne (hEdit : Edit db.ledger db'.ledger olds news)
    (hOlds : ∀ row ∈ olds, weight row = 0) (hNews : ∀ row ∈ news, weight row = 0) :
    total weight db'.ledger = total weight db.ledger := by
  have hTotal := hEdit.total weight
  have hOut : (olds.map weight).sum = 0 := List.sum_eq_zero fun n hn => by
    obtain ⟨row, hRow, rfl⟩ := List.mem_map.mp hn
    exact hOlds row hRow
  have hIn : (news.map weight).sum = 0 := List.sum_eq_zero fun n hn => by
    obtain ⟨row, hRow, rfl⟩ := List.mem_map.mp hn
    exact hNews row hRow
  omega

theorem tail_eq_zero {revision : Nat}
    (h : ∀ id row, db.ledger.lookup id = some row → row.virtualKeyId = key →
      row.lastAccountRevision ≤ revision) :
    total (fun row => if row.virtualKeyId = key ∧ isTail revision row = true then weight row
      else 0) db.ledger = 0 := by
  refine total_eq_zero_iff.mpr fun id row hRow => ?_
  rw [if_neg]
  rintro ⟨hKey, hTail⟩
  have hLe := h id row hRow hKey
  simp only [isTail, Bool.and_eq_true, decide_eq_true_eq] at hTail
  omega

end Edits

/-! ## Postings -/

/-- Ledger events of one account at its next revision, and the account following them: each row
that leaves or enters a state moves the count of that state, and each charge moves the used
amount. -/
structure Posting (db db' : Db) (key : Uuid) (account account' : AccountRow)
    (olds news : List LedgerRow) : Prop where
  found : db.virtualKeys.lookup key = some account
  accounts : db'.virtualKeys = db.virtualKeys.insert key account'
  checkpoints : db'.checkpoints = db.checkpoints
  revision : account'.budgetAccountingRevision = account.budgetAccountingRevision + 1
  workspace : account'.wsId = account.wsId
  edit : Table.Edit db.ledger db'.ledger olds news
  oldKey : ∀ row ∈ olds, row.virtualKeyId = key
  oldStatus : ∀ row ∈ olds, row.status ≠ .settled
  newKey : ∀ row ∈ news, row.virtualKeyId = key
  newRevision : ∀ row ∈ news, row.lastAccountRevision = account.budgetAccountingRevision + 1
  newWorkspace : ∀ row ∈ news, row.workspaceId = account.wsId
  newChecked : ∀ row ∈ news, row.kindStatusValid
  pending : account'.budgetPendingCount + (olds.map (LedgerRow.inState .pending)).sum =
    (news.map (LedgerRow.inState .pending)).sum + account.budgetPendingCount
  unresolved : account'.budgetUnresolvedCount + (olds.map (LedgerRow.inState .unresolved)).sum =
    (news.map (LedgerRow.inState .unresolved)).sum + account.budgetUnresolvedCount
  used : account'.budgetUsed.units = (news.map LedgerRow.charge).sum + account.budgetUsed.units

namespace Posting

variable {db db' : Db} {key key' : Uuid} {account account' found : AccountRow}
  {olds news : List LedgerRow}

section

variable (hPosting : Posting db db' key account account' olds news)
include hPosting

theorem lookup (hFound : db'.virtualKeys.lookup key' = some found) :
    (key' = key ∧ found = account') ∨ (key' ≠ key ∧ db.virtualKeys.lookup key' = some found) := by
  rw [hPosting.accounts] at hFound
  exact lookup_insert_cases hFound

theorem total_ne (hKey : key' ≠ key)
    {weight : LedgerRow → Nat} (hWeight : ∀ row, row.virtualKeyId ≠ key' → weight row = 0) :
    total weight db'.ledger = total weight db.ledger := by
  refine total_edit_ne hPosting.edit (fun row hRow => hWeight row ?_) fun row hRow => hWeight row ?_
  · rw [hPosting.oldKey row hRow]
    exact hKey.symm
  · rw [hPosting.newKey row hRow]
    exact hKey.symm

theorem rowsIn_ne (hKey : key' ≠ key)
    (status : BudgetLedgerStatus) : db'.rowsIn key' status = db.rowsIn key' status := by
  unfold Db.rowsIn Db.countRows
  exact hPosting.total_ne hKey fun row hRow => by simp [hRow]

theorem sumCosts_ne (hKey : key' ≠ key)
    (cond : LedgerRow → Bool) : db'.sumCosts key' cond = db.sumCosts key' cond := by
  unfold Db.sumCosts
  exact hPosting.total_ne hKey fun row hRow => by simp [hRow]

theorem rowsIn_eq {status : BudgetLedgerStatus} {count : AccountRow → Nat}
    (hCount : count account' + (olds.map (LedgerRow.inState status)).sum =
      (news.map (LedgerRow.inState status)).sum + count account)
    (hBefore : ∀ key account, db.virtualKeys.lookup key = some account →
      count account = db.rowsIn key status)
    (hFound : db'.virtualKeys.lookup key' = some found) : count found = db'.rowsIn key' status := by
  obtain ⟨rfl, rfl⟩ | ⟨hKey, hOld⟩ := hPosting.lookup hFound
  · have hRows := rowsIn_edit hPosting.edit hPosting.oldKey hPosting.newKey status
    have hCountBefore := hBefore key' account hPosting.found
    omega
  · rw [hPosting.rowsIn_ne hKey]
    exact hBefore key' found hOld

end

end Posting

/-! ## What keeps the agreement -/

section Steps

variable {db db' : Db} {key : Uuid} {account account' : AccountRow} {olds news : List LedgerRow}

section

variable (h : Consistent db)
include h

theorem Consistent.exists_latest (hFound : db.virtualKeys.lookup key = some account) :
    ∃ revision checkpoint, db.latestCheckpoint key = some (revision, checkpoint) ∧
      revision ≤ account.budgetAccountingRevision := by
  obtain ⟨genesis, hGenesis⟩ := Option.ne_none_iff_exists'.mp (h.accountGenesis key account hFound)
  obtain ⟨⟨revision, checkpoint⟩, hLatest⟩ :=
    Option.ne_none_iff_exists'.mp (latestCheckpoint_ne_none hGenesis)
  exact ⟨revision, checkpoint, hLatest,
    h.checkpointRevision key revision checkpoint account (lookup_of_latestCheckpoint hLatest)
      hFound⟩

theorem Consistent.used_post
    (hPosting : Posting db db' key account account' olds news) {key' : Uuid} {found : AccountRow}
    (hFound : db'.virtualKeys.lookup key' = some found) :
    found.budgetUsed.units = db'.derivedUsed key' := by
  rw [Db.derivedUsed, latestCheckpoint_congr hPosting.checkpoints]
  obtain ⟨rfl, rfl⟩ | ⟨hKey, hOld⟩ := hPosting.lookup hFound
  · obtain ⟨revision, checkpoint, hLatest, hLe⟩ := h.exists_latest hPosting.found
    have hBefore := h.used key' account hPosting.found
    have hUsed := hPosting.used
    have hCost := sumCosts_edit revision hPosting.edit hPosting.oldStatus fun row hRow =>
      ⟨hPosting.newKey row hRow, by have := hPosting.newRevision row hRow; omega⟩
    simp only [Db.derivedUsed, hLatest] at hBefore ⊢
    omega
  · have hBefore := h.used key' found hOld
    rw [hBefore, Db.derivedUsed]
    split <;> simp only [hPosting.sumCosts_ne hKey]

/-- **Posting.** A posting keeps the agreement. -/
theorem Consistent.post
    (hPosting : Posting db db' key account account' olds news) : Consistent db' where
  pending key' found hFound := hPosting.rowsIn_eq hPosting.pending h.pending hFound
  unresolved key' found hFound := hPosting.rowsIn_eq hPosting.unresolved h.unresolved hFound
  used key' found hFound := h.used_post hPosting hFound
  rowRevision id row found hRow hFound := by
    have hRevision := hPosting.revision
    rcases hPosting.edit.lookup id row hRow with hOldRow | hNew
    · obtain ⟨hKey, rfl⟩ | ⟨-, hOld⟩ := hPosting.lookup hFound
      · have hLe := h.rowRevision id row account hOldRow (hKey ▸ hPosting.found)
        omega
      · exact h.rowRevision id row found hOldRow hOld
    · have hNewRevision := hPosting.newRevision row hNew
      obtain ⟨-, rfl⟩ | ⟨hNe, -⟩ := hPosting.lookup hFound
      · omega
      · exact absurd (hPosting.newKey row hNew) hNe
  rowWorkspace id row found hRow hFound := by
    have hWorkspace := hPosting.workspace
    rcases hPosting.edit.lookup id row hRow with hOldRow | hNew
    · obtain ⟨hKey, rfl⟩ | ⟨-, hOld⟩ := hPosting.lookup hFound
      · exact (h.rowWorkspace id row account hOldRow (hKey ▸ hPosting.found)).trans hWorkspace.symm
      · exact h.rowWorkspace id row found hOldRow hOld
    · obtain ⟨-, rfl⟩ | ⟨hNe, -⟩ := hPosting.lookup hFound
      · exact (hPosting.newWorkspace row hNew).trans hWorkspace.symm
      · exact absurd (hPosting.newKey row hNew) hNe
  checkpointRevision key' revision checkpoint found hCheckpoint hFound := by
    have hRevision := hPosting.revision
    rw [hPosting.checkpoints] at hCheckpoint
    obtain ⟨rfl, rfl⟩ | ⟨-, hOld⟩ := hPosting.lookup hFound
    · have hLe := h.checkpointRevision key' revision checkpoint account hCheckpoint hPosting.found
      omega
    · exact h.checkpointRevision key' revision checkpoint found hCheckpoint hOld
  accountGenesis key' found hFound := by
    rw [hPosting.checkpoints]
    obtain ⟨rfl, rfl⟩ | ⟨-, hOld⟩ := hPosting.lookup hFound
    · exact h.accountGenesis key' account hPosting.found
    · exact h.accountGenesis key' found hOld
  rowGenesis id row hRow := by
    rw [hPosting.checkpoints]
    rcases hPosting.edit.lookup id row hRow with hOldRow | hNew
    · exact h.rowGenesis id row hOldRow
    · rw [hPosting.newKey row hNew]
      exact h.accountGenesis key account hPosting.found
  checkpointGenesis key' revision checkpoint hCheckpoint := by
    rw [hPosting.checkpoints] at hCheckpoint ⊢
    exact h.checkpointGenesis key' revision checkpoint hCheckpoint
  checked id row hRow := by
    rcases hPosting.edit.lookup id row hRow with hOldRow | hNew
    · exact h.checked id row hOldRow
    · exact hPosting.newChecked row hNew

theorem Consistent.quiet (hAccounts : db'.virtualKeys = db.virtualKeys)
    (hLedger : db'.ledger = db.ledger) (hCheckpoints : db'.checkpoints = db.checkpoints) :
    Consistent db' := by
  obtain ⟨accounts, ledger, checkpoints, _, _, _, _⟩ := db
  obtain ⟨accounts', ledger', checkpoints', _, _, _, _⟩ := db'
  subst hAccounts hLedger hCheckpoints
  exact ⟨h.pending, h.unresolved, h.used, h.rowRevision, h.rowWorkspace, h.checkpointRevision,
    h.accountGenesis, h.rowGenesis, h.checkpointGenesis, h.checked⟩

end

variable {id : Uuid} {row : LedgerRow}

section

variable (h : Consistent db)
include h

/-- A row rewritten in place, still pending. -/
theorem Consistent.dispatch {row' : LedgerRow}
    (hFound : db.ledger.lookup id = some row) (hStatus : row.status = .pending)
    (hFollows : row'.Follows row row.lastAccountRevision) (hStatus' : row'.status = .pending)
    (hChecked : row'.kindStatusValid) :
    Consistent { db with ledger := db.ledger.insert id row' } := by
  have hEdit : Edit db.ledger (db.ledger.insert id row') [row] [row'] := Table.Edit.replace hFound
  have hTotal : ∀ weight : LedgerRow → Nat, weight row' = weight row →
      total weight (db.ledger.insert id row') = total weight db.ledger := by
    intro weight hWeight
    have hMoved := hEdit.total weight
    simp only [List.map_cons, List.map_nil, List.sum_cons, List.sum_nil] at hMoved
    omega
  have hRows : ∀ key status, { db with ledger := db.ledger.insert id row' }.rowsIn key status =
      db.rowsIn key status := by
    intro key status
    unfold Db.rowsIn Db.countRows
    exact hTotal _ (by simp [hFollows.virtualKeyId, hStatus, hStatus'])
  have hCosts : ∀ key revision,
      { db with ledger := db.ledger.insert id row' }.sumCosts key (isTail revision) =
        db.sumCosts key (isTail revision) :=
    fun key revision => hTotal _ (by simp [isTail, hStatus, hStatus'])
  have hRow : ∀ id' found, (db.ledger.insert id row').lookup id' = some found →
      ∃ before, db.ledger.lookup id' = some before ∧ found.virtualKeyId = before.virtualKeyId ∧
        found.workspaceId = before.workspaceId ∧
        found.lastAccountRevision = before.lastAccountRevision ∧ found.kindStatusValid := by
    intro id' found hFound'
    obtain ⟨rfl, rfl⟩ | ⟨-, hOld⟩ := lookup_insert_cases hFound'
    · exact ⟨row, hFound, hFollows.virtualKeyId, hFollows.workspaceId, hFollows.revision, hChecked⟩
    · exact ⟨found, hOld, rfl, rfl, rfl, h.checked id' found hOld⟩
  refine ⟨?_, ?_, ?_, ?_, ?_, h.checkpointRevision, h.accountGenesis, ?_, h.checkpointGenesis, ?_⟩
  · intro key account hAccount
    rw [hRows]
    exact h.pending key account hAccount
  · intro key account hAccount
    rw [hRows]
    exact h.unresolved key account hAccount
  · intro key account hAccount
    obtain ⟨revision, checkpoint, hLatest, -⟩ := h.exists_latest hAccount
    have hBefore := h.used key account hAccount
    have hLatest' : { db with ledger := db.ledger.insert id row' }.latestCheckpoint key =
        some (revision, checkpoint) := hLatest
    simp only [Db.derivedUsed, hLatest, hLatest'] at hBefore ⊢
    rw [hCosts]
    exact hBefore
  · intro id' found account hFound' hAccount
    obtain ⟨before, hBefore, hKey, -, hRevision, -⟩ := hRow id' found hFound'
    rw [hKey] at hAccount
    rw [hRevision]
    exact h.rowRevision id' before account hBefore hAccount
  · intro id' found account hFound' hAccount
    obtain ⟨before, hBefore, hKey, hWorkspace, -, -⟩ := hRow id' found hFound'
    rw [hKey] at hAccount
    exact hWorkspace.trans (h.rowWorkspace id' before account hBefore hAccount)
  · intro id' found hFound'
    obtain ⟨before, hBefore, hKey, -, -, -⟩ := hRow id' found hFound'
    rw [hKey]
    exact h.rowGenesis id' before hBefore
  · intro id' found hFound'
    obtain ⟨before, -, -, -, -, hValid⟩ := hRow id' found hFound'
    exact hValid

/-- A checkpoint of the used amount at the current revision. -/
theorem Consistent.checkpoint {row : CheckpointRow}
    (hFound : db.virtualKeys.lookup key = some account)
    (hFresh : db.checkpoints.lookup (key, account.budgetAccountingRevision) = none)
    (hCost : row.accountedCostUsd = account.budgetUsed)
    (hUsed : account'.budgetUsed = account.budgetUsed)
    (hPending : account'.budgetPendingCount = account.budgetPendingCount)
    (hUnresolved : account'.budgetUnresolvedCount = account.budgetUnresolvedCount)
    (hRevision : account'.budgetAccountingRevision = account.budgetAccountingRevision)
    (hWorkspace : account'.wsId = account.wsId) :
    Consistent { db with
      virtualKeys := db.virtualKeys.insert key account'
      checkpoints := db.checkpoints.insert (key, account.budgetAccountingRevision) row } := by
  have hAccount : ∀ key' found, (db.virtualKeys.insert key account').lookup key' = some found →
      ∃ before, db.virtualKeys.lookup key' = some before ∧ found.budgetUsed = before.budgetUsed ∧
        found.budgetPendingCount = before.budgetPendingCount ∧
        found.budgetUnresolvedCount = before.budgetUnresolvedCount ∧
        found.budgetAccountingRevision = before.budgetAccountingRevision ∧
        found.wsId = before.wsId := by
    intro key' found hFound'
    obtain ⟨rfl, rfl⟩ | ⟨-, hOld⟩ := lookup_insert_cases hFound'
    · exact ⟨account, hFound, hUsed, hPending, hUnresolved, hRevision, hWorkspace⟩
    · exact ⟨found, hOld, rfl, rfl, rfl, rfl, rfl⟩
  refine ⟨?_, ?_, ?_, ?_, ?_, ?_, ?_, ?_, ?_, h.checked⟩
  · intro key' found hFound'
    obtain ⟨before, hBefore, -, hEq, -, -, -⟩ := hAccount key' found hFound'
    exact hEq.trans (h.pending key' before hBefore)
  · intro key' found hFound'
    obtain ⟨before, hBefore, -, -, hEq, -, -⟩ := hAccount key' found hFound'
    exact hEq.trans (h.unresolved key' before hBefore)
  · intro key' found hFound'
    obtain ⟨before, hBefore, hEq, -, -, -, -⟩ := hAccount key' found hFound'
    rw [hEq]
    by_cases hKey : key = key'
    · subst hKey
      obtain rfl : account = before := Option.mem_unique hFound hBefore
      have hNone : db.sumCosts key (isTail account.budgetAccountingRevision) = 0 :=
        tail_eq_zero fun id ledgerRow hRow hKey =>
          h.rowRevision id ledgerRow account hRow (hKey ▸ hFound)
      rw [derivedUsed_insert hFresh (fun revision' row' hRow' =>
        h.checkpointRevision key revision' row' account hRow' hFound) hNone, hCost]
    · rw [derivedUsed_insert_ne hFresh hKey]
      exact h.used key' before hBefore
  · intro id ledgerRow found hRow hFound'
    obtain ⟨before, hBefore, -, -, -, hEq, -⟩ := hAccount _ found hFound'
    rw [hEq]
    exact h.rowRevision id ledgerRow before hRow hBefore
  · intro id ledgerRow found hRow hFound'
    obtain ⟨before, hBefore, -, -, -, -, hEq⟩ := hAccount _ found hFound'
    rw [hEq]
    exact h.rowWorkspace id ledgerRow before hRow hBefore
  · intro key' revision checkpoint found hCheckpoint hFound'
    obtain ⟨before, hBefore, -, -, -, hEq, -⟩ := hAccount key' found hFound'
    rw [hEq]
    obtain ⟨hKey, -⟩ | ⟨-, hOld⟩ := lookup_insert_cases hCheckpoint
    · obtain ⟨rfl, rfl⟩ := Prod.mk.inj hKey
      obtain rfl : account = before := Option.mem_unique hFound hBefore
      exact le_rfl
    · exact h.checkpointRevision key' revision checkpoint before hOld hBefore
  · intro key' found hFound'
    obtain ⟨before, hBefore, -⟩ := hAccount key' found hFound'
    exact lookup_insert_ne_none (h.accountGenesis key' before hBefore)
  · intro id ledgerRow hRow
    exact lookup_insert_ne_none (h.rowGenesis id ledgerRow hRow)
  · intro key' revision checkpoint hCheckpoint
    obtain ⟨hKey, -⟩ | ⟨-, hOld⟩ := lookup_insert_cases hCheckpoint
    · obtain ⟨rfl, -⟩ := Prod.mk.inj hKey
      exact lookup_insert_ne_none (h.accountGenesis key' account hFound)
    · exact lookup_insert_ne_none (h.checkpointGenesis key' revision checkpoint hOld)

theorem Consistent.no_rows (hFresh : db.checkpoints.lookup (key, 0) = none)
    (hRow : db.ledger.lookup id = some row) : row.virtualKeyId ≠ key := by
  rintro rfl
  exact h.rowGenesis id row hRow hFresh

theorem Consistent.create {row : CheckpointRow}
    (hFreshCheckpoint : db.checkpoints.lookup (key, 0) = none)
    (hUsed : account.budgetUsed = .zero) (hPending : account.budgetPendingCount = 0)
    (hUnresolved : account.budgetUnresolvedCount = 0) (hCost : row.accountedCostUsd = .zero) :
    Consistent { db with
      virtualKeys := db.virtualKeys.insert key account
      checkpoints := db.checkpoints.insert (key, 0) row } := by
  have hNoCheckpoint : ∀ revision checkpoint,
      db.checkpoints.lookup (key, revision) = some checkpoint → False :=
    fun revision checkpoint hCheckpoint =>
      h.checkpointGenesis key revision checkpoint hCheckpoint hFreshCheckpoint
  have hNoRows : ∀ status, db.rowsIn key status = 0 := by
    intro status
    unfold Db.rowsIn Db.countRows
    exact total_eq_zero_iff.mpr fun id ledgerRow hRow => by
      simp [h.no_rows hFreshCheckpoint hRow]
  have hNoCosts : ∀ cond, db.sumCosts key cond = 0 := fun cond =>
    total_eq_zero_iff.mpr fun id ledgerRow hRow => by
      simp [h.no_rows hFreshCheckpoint hRow]
  refine ⟨?_, ?_, ?_, ?_, ?_, ?_, ?_, ?_, ?_, h.checked⟩
  · intro key' found hFound
    obtain ⟨rfl, rfl⟩ | ⟨-, hOld⟩ := lookup_insert_cases hFound
    · exact hPending.trans (hNoRows _).symm
    · exact h.pending key' found hOld
  · intro key' found hFound
    obtain ⟨rfl, rfl⟩ | ⟨-, hOld⟩ := lookup_insert_cases hFound
    · exact hUnresolved.trans (hNoRows _).symm
    · exact h.unresolved key' found hOld
  · intro key' found hFound
    obtain ⟨rfl, rfl⟩ | ⟨hKey, hOld⟩ := lookup_insert_cases hFound
    · rw [derivedUsed_insert hFreshCheckpoint (fun revision' row' hRow' =>
        (hNoCheckpoint revision' row' hRow').elim) (hNoCosts _), hCost, hUsed]
    · rw [derivedUsed_insert_ne hFreshCheckpoint hKey.symm]
      exact h.used key' found hOld
  · intro id ledgerRow found hRow hFound
    obtain ⟨hKey, -⟩ | ⟨-, hOld⟩ := lookup_insert_cases hFound
    · exact absurd hKey (h.no_rows hFreshCheckpoint hRow)
    · exact h.rowRevision id ledgerRow found hRow hOld
  · intro id ledgerRow found hRow hFound
    obtain ⟨hKey, -⟩ | ⟨-, hOld⟩ := lookup_insert_cases hFound
    · exact absurd hKey (h.no_rows hFreshCheckpoint hRow)
    · exact h.rowWorkspace id ledgerRow found hRow hOld
  · intro key' revision checkpoint found hCheckpoint hFound
    obtain ⟨rfl, rfl⟩ | ⟨hKey, hOld⟩ := lookup_insert_cases hFound
    · obtain ⟨hFirst, -⟩ | ⟨-, hOldCheckpoint⟩ := lookup_insert_cases hCheckpoint
      · have hZero := congrArg Prod.snd hFirst
        omega
      · exact (hNoCheckpoint revision checkpoint hOldCheckpoint).elim
    · obtain ⟨hFirst, -⟩ | ⟨-, hOldCheckpoint⟩ := lookup_insert_cases hCheckpoint
      · exact absurd (congrArg Prod.fst hFirst) hKey
      · exact h.checkpointRevision key' revision checkpoint found hOldCheckpoint hOld
  · intro key' found hFound
    obtain ⟨rfl, rfl⟩ | ⟨-, hOld⟩ := lookup_insert_cases hFound
    · rw [AList.lookup_insert]
      simp
    · exact lookup_insert_ne_none (h.accountGenesis key' found hOld)
  · intro id ledgerRow hRow
    exact lookup_insert_ne_none (h.rowGenesis id ledgerRow hRow)
  · intro key' revision checkpoint hCheckpoint
    obtain ⟨hFirst, -⟩ | ⟨-, hOldCheckpoint⟩ := lookup_insert_cases hCheckpoint
    · obtain ⟨rfl, -⟩ := Prod.mk.inj hFirst
      rw [AList.lookup_insert]
      simp
    · exact lookup_insert_ne_none (h.checkpointGenesis key' revision checkpoint hOldCheckpoint)

theorem Consistent.delete :
    Consistent { db with virtualKeys := db.virtualKeys.erase key } := by
  have hAccount : ∀ key' found, (db.virtualKeys.erase key).lookup key' = some found →
      db.virtualKeys.lookup key' = some found := by
    intro key' found hFound
    by_cases hKey : key' = key
    · subst hKey
      rw [AList.lookup_erase] at hFound
      cases hFound
    · rwa [AList.lookup_erase_ne hKey] at hFound
  exact {
    pending := fun key' found hFound => h.pending key' found (hAccount key' found hFound)
    unresolved := fun key' found hFound => h.unresolved key' found (hAccount key' found hFound)
    used := fun key' found hFound => h.used key' found (hAccount key' found hFound)
    rowRevision := fun id row found hRow hFound =>
      h.rowRevision id row found hRow (hAccount _ found hFound)
    rowWorkspace := fun id row found hRow hFound =>
      h.rowWorkspace id row found hRow (hAccount _ found hFound)
    checkpointRevision := fun key' revision checkpoint found hCheckpoint hFound =>
      h.checkpointRevision key' revision checkpoint found hCheckpoint (hAccount key' found hFound)
    accountGenesis := fun key' found hFound =>
      h.accountGenesis key' found (hAccount key' found hFound)
    rowGenesis := h.rowGenesis
    checkpointGenesis := h.checkpointGenesis
    checked := h.checked }

end

end Steps

end KongRust.Budget
