import KongRust.Budget.Invariant

/-!
# Accounts agree with their ledger in every run

Every move posts to one account, or checkpoints, creates or deletes one, so every call keeps the
agreement of accounts, ledger and checkpoints. A rebuild in flight writes back what it scanned, so
the invariant of a system also says that a scan is true of its account until the account moves on.
-/

namespace KongRust.Budget

open Transaction LedgerRow Table

/-! ## Moves as postings -/

section Postings

variable {libs : External} {db : Db} {key id : Uuid} {account account' : AccountRow} {events : Nat}
  {row row' : LedgerRow}

theorem weights_of_pending (h : row.status = .pending) :
    row.inState .pending = 1 ∧ row.inState .unresolved = 0 ∧ row.charge = 0 := by
  simp [inState, charge, h]

theorem weights_of_unresolved (h : row.status = .unresolved) :
    row.inState .pending = 0 ∧ row.inState .unresolved = 1 ∧ row.charge = 0 := by
  simp [inState, charge, h]

theorem weights_of_settled {amount : Usd} (h : row.status = .settled)
    (hCost : row.accountedCostUsd = some amount) :
    row.inState .pending = 0 ∧ row.inState .unresolved = 0 ∧ row.charge = amount.units := by
  simp [inState, charge, h, hCost]

theorem weights_of_closed (h : row.status = .resolved ∨ row.status = .waived) :
    row.inState .pending = 0 ∧ row.inState .unresolved = 0 ∧ row.charge = 0 := by
  rcases h with h | h <;> simp [inState, charge, h]

theorem Releases.counts (h : Releases row.status account account')
    (hOpen : row.status = .pending ∨ row.status = .unresolved) :
    account'.budgetPendingCount + row.inState .pending = account.budgetPendingCount ∧
      account'.budgetUnresolvedCount + row.inState .unresolved = account.budgetUnresolvedCount := by
  obtain ⟨hCounted, hPending, hUnresolved⟩ := h
  rcases hOpen with hStatus | hStatus
  · simp only [hStatus, openCount, releaseCount, if_true, inState, reduceCtorEq, if_false] at *
    omega
  · simp only [hStatus, openCount, releaseCount, if_true, inState, reduceCtorEq, if_false] at *
    omega

theorem Suspends.counts (h : Suspends row.status account account')
    (hOpen : row.status = .pending ∨ row.status = .unresolved) :
    account'.budgetPendingCount + row.inState .pending = account.budgetPendingCount ∧
      account'.budgetUnresolvedCount + row.inState .unresolved =
        account.budgetUnresolvedCount + 1 := by
  obtain ⟨hCounted, hPending, hUnresolved, -⟩ := h
  rcases hOpen with hStatus | hStatus
  · simp only [hStatus, openCount, suspendCount, if_true, inState, reduceCtorEq, if_false] at *
    omega
  · simp only [hStatus, openCount, suspendCount, if_true, inState, reduceCtorEq, if_false] at *
    omega

theorem Rewrites.key' (h : Rewrites libs db key account id row row') : row'.virtualKeyId = key :=
  h.follows.virtualKeyId.trans h.virtualKeyId

theorem Rewrites.workspace' (hRewrites : Rewrites libs db key account id row row')
    (h : Consistent db) (hFound : db.virtualKeys.lookup key = some account) :
    row'.workspaceId = account.wsId :=
  hRewrites.follows.workspaceId.trans
    (h.rowWorkspace id row account hRewrites.found (hRewrites.virtualKeyId ▸ hFound))

theorem Rewrites.ne_settled (h : Rewrites libs db key account id row row') :
    row.status ≠ .settled := by
  rcases h.status with hStatus | hStatus <;> simp [hStatus]

variable {childId : Uuid} {child : LedgerRow}

theorem Rewrites.ne_of_appends (h : Rewrites libs db key account id row row')
    (hAppends : Appends libs db key account childId child) : id ≠ childId := by
  rintro rfl
  simpa [hAppends.fresh] using h.found

section

variable (hPosts : Posts db key account account' events)
include hPosts

theorem Posting.edit_account (hUsed : account'.budgetUsed = account.budgetUsed)
    (hPending : account'.budgetPendingCount = account.budgetPendingCount)
    (hUnresolved : account'.budgetUnresolvedCount = account.budgetUnresolvedCount) :
    Posting db { db with virtualKeys := db.virtualKeys.insert key account' } key account account'
      [] [] where
  found := hPosts.found
  accounts := rfl
  checkpoints := rfl
  revision := hPosts.revision
  workspace := hPosts.workspace
  edit := Table.Edit.refl db.ledger
  oldKey := by simp
  oldStatus := by simp
  newKey := by simp
  newRevision := by simp
  newWorkspace := by simp
  newChecked := by simp
  pending := by simpa using hPending
  unresolved := by simpa using hUnresolved
  used := by simp [hUsed]

theorem Posting.append (hAppends : Appends libs db key account id row)
    (hPending : account'.budgetPendingCount = row.inState .pending + account.budgetPendingCount)
    (hUnresolved : account'.budgetUnresolvedCount =
      row.inState .unresolved + account.budgetUnresolvedCount)
    (hUsed : account'.budgetUsed.units = row.charge + account.budgetUsed.units) :
    Posting db { db with
      virtualKeys := db.virtualKeys.insert key account'
      ledger := db.ledger.insert id row } key account account' [] [row] where
  found := hPosts.found
  accounts := rfl
  checkpoints := rfl
  revision := hPosts.revision
  workspace := hPosts.workspace
  edit := Table.Edit.insert hAppends.fresh
  oldKey := by simp
  oldStatus := by simp
  newKey := by simpa using hAppends.virtualKeyId
  newRevision := by simpa using hAppends.revision
  newWorkspace := by simpa using hAppends.workspaceId
  newChecked := by simpa using kindStatusValid_of_checks hAppends.checks
  pending := by simpa using hPending
  unresolved := by simpa using hUnresolved
  used := by simpa using hUsed

theorem Posting.rewrite (h : Consistent db) (hRewrites : Rewrites libs db key account id row row')
    (hPending : account'.budgetPendingCount + row.inState .pending =
      row'.inState .pending + account.budgetPendingCount)
    (hUnresolved : account'.budgetUnresolvedCount + row.inState .unresolved =
      row'.inState .unresolved + account.budgetUnresolvedCount)
    (hUsed : account'.budgetUsed.units = row'.charge + account.budgetUsed.units) :
    Posting db { db with
      virtualKeys := db.virtualKeys.insert key account'
      ledger := db.ledger.insert id row' } key account account' [row] [row'] where
  found := hPosts.found
  accounts := rfl
  checkpoints := rfl
  revision := hPosts.revision
  workspace := hPosts.workspace
  edit := Table.Edit.replace hRewrites.found
  oldKey := by simpa using hRewrites.virtualKeyId
  oldStatus := by simpa using hRewrites.ne_settled
  newKey := by simpa using hRewrites.key'
  newRevision := by simpa using hRewrites.follows.revision
  newWorkspace := by simpa using hRewrites.workspace' h hPosts.found
  newChecked := by simpa using kindStatusValid_of_checks hRewrites.checks
  pending := by simpa using hPending
  unresolved := by simpa using hUnresolved
  used := by simpa using hUsed

/-- A row rewritten together with a new row of the same account. -/
theorem Posting.rewrite_append (h : Consistent db)
    (hRewrites : Rewrites libs db key account id row row')
    (hAppends : Appends libs db key account childId child)
    {ledger' : AList fun _ : Uuid => LedgerRow} {news : List LedgerRow}
    (hEdit : Edit db.ledger ledger' [row] news) (hNews : news.Perm [row', child])
    (hPending : account'.budgetPendingCount + row.inState .pending =
      row'.inState .pending + child.inState .pending + account.budgetPendingCount)
    (hUnresolved : account'.budgetUnresolvedCount + row.inState .unresolved =
      row'.inState .unresolved + child.inState .unresolved + account.budgetUnresolvedCount)
    (hUsed : account'.budgetUsed.units = row'.charge + child.charge + account.budgetUsed.units) :
    Posting db { db with
      virtualKeys := db.virtualKeys.insert key account'
      ledger := ledger' } key account account' [row] news := by
  have hSum : ∀ weight : LedgerRow → Nat, (news.map weight).sum = weight row' + weight child := by
    intro weight
    rw [(hNews.map weight).sum_eq]
    simp
  have hMem : ∀ entry, entry ∈ news → entry = row' ∨ entry = child := by
    intro entry hEntry
    simpa using hNews.mem_iff.mp hEntry
  exact {
    found := hPosts.found
    accounts := rfl
    checkpoints := rfl
    revision := hPosts.revision
    workspace := hPosts.workspace
    edit := hEdit
    oldKey := by simpa using hRewrites.virtualKeyId
    oldStatus := by simpa using hRewrites.ne_settled
    newKey := fun entry hEntry => by
      rcases hMem entry hEntry with rfl | rfl
      · exact hRewrites.key'
      · exact hAppends.virtualKeyId
    newRevision := fun entry hEntry => by
      rcases hMem entry hEntry with rfl | rfl
      · exact hRewrites.follows.revision
      · exact hAppends.revision
    newWorkspace := fun entry hEntry => by
      rcases hMem entry hEntry with rfl | rfl
      · exact hRewrites.workspace' h hPosts.found
      · exact hAppends.workspaceId
    newChecked := fun entry hEntry => by
      rcases hMem entry hEntry with rfl | rfl
      · exact kindStatusValid_of_checks hRewrites.checks
      · exact kindStatusValid_of_checks hAppends.checks
    pending := by
      rw [hSum]
      simpa using hPending
    unresolved := by
      rw [hSum]
      simpa using hUnresolved
    used := by
      rw [hSum]
      exact hUsed }

end

end Postings

/-! ## Rebuilds -/

/-- A scan agrees with its account as long as the account is at the scanned revision. The first
checkpoint of the account rules out that the account is deleted and created again. -/
structure RebuildScan.Sound (scan : RebuildScan) (db : Db) (key : Uuid) : Prop where
  genesis : db.checkpoints.lookup (key, 0) ≠ none
  revision : ∀ account, db.virtualKeys.lookup key = some account →
    scan.account.accountingRevision ≤ account.budgetAccountingRevision
  current : ∀ account, db.virtualKeys.lookup key = some account →
    scan.account.accountingRevision = account.budgetAccountingRevision →
    scan.recomputedUsedUsd = account.budgetUsed ∧
      scan.pendingCount = account.budgetPendingCount ∧
      scan.unresolvedRequestCount + scan.openAccountIssueCount = account.budgetUnresolvedCount

section Rebuild

variable {libs : External} {db : Db} {command : NormalizedRebuildCommand} {scan : RebuildScan}
  {auditId : Uuid} {account account' : AccountRow} {audit : LedgerRow} {now : Nat}

variable {revision : Nat}

theorem closesIssue_iff {row : LedgerRow} :
    closesIssue command revision row ↔ row.virtualKeyId = command.virtualKeyId ∧
      row.kind = .accountIssue ∧ row.status = .unresolved ∧
      row.lastAccountRevision ≤ revision ∧ command.scope.contains row.workspaceId := by
  simp [closesIssue, and_assoc]

theorem not_closesIssue_audit (hKind : audit.kind = .rebuildAudit) :
    ¬ closesIssue command revision audit := by
  intro hCloses
  have hIssue := (closesIssue_iff.mp hCloses).2.1
  simp [hKind] at hIssue

theorem mem_closing (hFresh : db.ledger.lookup auditId = none)
    (hAudit : ¬ closesIssue command revision audit) (row : LedgerRow)
    (hRow : row ∈ ((db.ledger.insert auditId audit).entries.map Sigma.snd).filter
      (closesIssue command revision)) :
    closesIssue command revision row ∧ ∃ id, db.ledger.lookup id = some row := by
  obtain ⟨hMem, hCloses⟩ := List.mem_filter.mp hRow
  obtain ⟨⟨id, _⟩, hEntry, rfl⟩ := List.mem_map.mp hMem
  rcases (Table.Edit.insert hFresh).lookup id _ (lookup_eq_some_iff.mpr hEntry) with hOld | hNew
  · exact ⟨hCloses, id, hOld⟩
  · obtain rfl := List.mem_singleton.mp hNew
    exact absurd hCloses hAudit

theorem sum_closing (hFresh : db.ledger.lookup auditId = none)
    (hAudit : ¬ closesIssue command revision audit) :
    ((((db.ledger.insert auditId audit).entries.map Sigma.snd).filter
      (closesIssue command revision)).map (inState .unresolved)).sum =
        total (fun row => if closesIssue command revision row then 1 else 0) db.ledger := by
  rw [sum_filter, total_insert hFresh, if_neg hAudit, Nat.zero_add]
  refine total_congr fun entry _ => ?_
  split
  · next hCloses => simp [inState, (closesIssue_iff.mp hCloses).2.2.1]
  · rfl

/-- A rebuild whose snapshot is still that of the account, with what it writes to the account. -/
structure Rebuilds (libs : External) (db : Db) (command : NormalizedRebuildCommand)
    (scan : RebuildScan) (auditId : Uuid) (account : AccountRow) (audit : LedgerRow) (now : Nat)
    (account' : AccountRow) : Prop where
  sound : scan.Sound db command.virtualKeyId
  found : db.virtualKeys.lookup command.virtualKeyId = some account
  current : scan.account.accountingRevision = account.budgetAccountingRevision
  appends : Appends libs db command.virtualKeyId account auditId audit
  kind : audit.kind = .rebuildAudit
  status : audit.status = .resolved
  closed : Table.total (fun row =>
      if closesIssue command account.budgetAccountingRevision row then 1 else 0) db.ledger =
    scan.openAccountIssueCount
  checks : ∀ id row, db.ledger.lookup id = some row →
    closesIssue command account.budgetAccountingRevision row →
    (closedIssue command auditId (account.budgetAccountingRevision + 1) now
      row).satisfiesChecks libs
  used : account'.budgetUsed = scan.recomputedUsedUsd
  pending : account'.budgetPendingCount = scan.pendingCount
  unresolved : account'.budgetUnresolvedCount = scan.unresolvedRequestCount
  revision : account'.budgetAccountingRevision = account.budgetAccountingRevision + 1
  workspace : account'.wsId = account.wsId

/-- The ledger events of a rebuild: its audit row enters, and the open issues leave. -/
theorem Posting.rebuild (h : Consistent db)
    (hRebuilds : Rebuilds libs db command scan auditId account audit now account') :
    ∃ olds news, Posting db { db with
      virtualKeys := db.virtualKeys.insert command.virtualKeyId account'
      ledger := update (closesIssue command account.budgetAccountingRevision)
        (closedIssue command auditId (account.budgetAccountingRevision + 1) now)
        (db.ledger.insert auditId audit) } command.virtualKeyId account account' olds news ∧
      (news.map (inState .settled)).sum = 0 := by
  obtain ⟨hSound, hFound, hCurrent, hAppends, hKind, hStatus, hClosed, hChecks, hUsed, hPending,
    hUnresolved, hRevision, hWorkspace⟩ := hRebuilds
  obtain ⟨hSameUsed, hSamePending, hSameUnresolved⟩ := hSound.current account hFound hCurrent
  have hEdit := (Table.Edit.insert (v := audit) hAppends.fresh).trans
    (Table.Edit.update (closesIssue command account.budgetAccountingRevision)
      (closedIssue command auditId (account.budgetAccountingRevision + 1) now)
      (db.ledger.insert auditId audit))
  have hAudit : ¬ closesIssue command account.budgetAccountingRevision audit :=
    not_closesIssue_audit hKind
  have hClosing := mem_closing hAppends.fresh hAudit
  have hOpen := (sum_closing hAppends.fresh hAudit).trans hClosed
  rw [List.nil_append] at hEdit
  generalize ((db.ledger.insert auditId audit).entries.map Sigma.snd).filter
    (closesIssue command account.budgetAccountingRevision) = closing at hEdit hClosing hOpen
  have hUnresolvedRow : ∀ row ∈ closing, row.status = .unresolved := fun row hRow =>
    (closesIssue_iff.mp (hClosing row hRow).1).2.2.1
  have hNoPending : (closing.map (inState .pending)).sum = 0 := by
    refine List.sum_eq_zero fun n hn => ?_
    obtain ⟨row, hRow, rfl⟩ := List.mem_map.mp hn
    simp [inState, hUnresolvedRow row hRow]
  have hResolved : ∀ weight : LedgerRow → Nat, (∀ row, row.status = .resolved → weight row = 0) →
      (([audit] ++ closing.map (closedIssue command auditId (account.budgetAccountingRevision + 1)
        now)).map weight).sum = 0 := by
    intro weight hWeight
    refine List.sum_eq_zero fun n hn => ?_
    obtain ⟨row, hRow, rfl⟩ := List.mem_map.mp hn
    rcases List.mem_append.mp hRow with hRow | hRow
    · obtain rfl := List.mem_singleton.mp hRow
      exact hWeight _ hStatus
    · obtain ⟨before, -, rfl⟩ := List.mem_map.mp hRow
      exact hWeight _ rfl
  refine ⟨_, _, ⟨hFound, rfl, rfl, hRevision, hWorkspace, hEdit, ?_, ?_, ?_, ?_, ?_, ?_, ?_, ?_, ?_⟩,
    hResolved _ fun row hRow => by simp [inState, hRow]⟩
  · intro row hRow
    exact (closesIssue_iff.mp (hClosing row hRow).1).1
  · intro row hRow
    simp [hUnresolvedRow row hRow]
  · intro row hRow
    rcases List.mem_append.mp hRow with hRow | hRow
    · obtain rfl := List.mem_singleton.mp hRow
      exact hAppends.virtualKeyId
    · obtain ⟨before, hBefore, rfl⟩ := List.mem_map.mp hRow
      exact (closesIssue_iff.mp (hClosing before hBefore).1).1
  · intro row hRow
    rcases List.mem_append.mp hRow with hRow | hRow
    · obtain rfl := List.mem_singleton.mp hRow
      exact hAppends.revision
    · obtain ⟨before, -, rfl⟩ := List.mem_map.mp hRow
      rfl
  · intro row hRow
    rcases List.mem_append.mp hRow with hRow | hRow
    · obtain rfl := List.mem_singleton.mp hRow
      exact hAppends.workspaceId
    · obtain ⟨before, hBefore, rfl⟩ := List.mem_map.mp hRow
      obtain ⟨hCloses, id, hLookup⟩ := hClosing before hBefore
      exact h.rowWorkspace id before account hLookup ((closesIssue_iff.mp hCloses).1 ▸ hFound)
  · intro row hRow
    rcases List.mem_append.mp hRow with hRow | hRow
    · obtain rfl := List.mem_singleton.mp hRow
      exact kindStatusValid_of_checks hAppends.checks
    · obtain ⟨before, hBefore, rfl⟩ := List.mem_map.mp hRow
      obtain ⟨hCloses, id, hLookup⟩ := hClosing before hBefore
      exact kindStatusValid_of_checks (hChecks id before hLookup hCloses)
  · rw [hResolved _ fun row hRow => by simp [inState, hRow], hNoPending]
    omega
  · rw [hResolved _ fun row hRow => by simp [inState, hRow], hOpen]
    omega
  · rw [hResolved _ fun row hRow => by simp [charge, hRow], hUsed, hSameUsed]
    omega

end Rebuild

/-! ## Effects -/

/-- What a move does to the account it works on and to the rows of that account. A rebuild is a
posting and a checkpoint, so effects compose. -/
inductive Effect : Db → Db → Prop
  /-- Nothing but owner sessions and settings. -/
  | quiet {db db' : Db} (hAccounts : db'.virtualKeys = db.virtualKeys)
      (hLedger : db'.ledger = db.ledger) (hCheckpoints : db'.checkpoints = db.checkpoints) :
      Effect db db'
  /-- A row rewritten in place, still pending. -/
  | dispatched {db : Db} {id : Uuid} {row row' : LedgerRow}
      (hFound : db.ledger.lookup id = some row) (hStatus : row.status = .pending)
      (hFollows : row'.Follows row row.lastAccountRevision) (hStatus' : row'.status = .pending)
      (hChecked : row'.kindStatusValid) :
      Effect db { db with ledger := db.ledger.insert id row' }
  /-- A posting; every settled row it puts in counts in the tail. -/
  | posted {db db' : Db} {key : Uuid} {account account' : AccountRow} {olds news : List LedgerRow}
      (hPosting : Posting db db' key account account' olds news)
      (hTail : account.budgetCheckpointTailEvents + (news.map (LedgerRow.inState .settled)).sum ≤
        account'.budgetCheckpointTailEvents) :
      Effect db db'
  /-- A checkpoint of the used amount at the current revision. -/
  | checkpointed {db : Db} {key : Uuid} {account account' : AccountRow} {row : CheckpointRow}
      (hFound : db.virtualKeys.lookup key = some account)
      (hFresh : db.checkpoints.lookup (key, account.budgetAccountingRevision) = none)
      (hCost : row.accountedCostUsd = account.budgetUsed)
      (hUsed : account'.budgetUsed = account.budgetUsed)
      (hPending : account'.budgetPendingCount = account.budgetPendingCount)
      (hUnresolved : account'.budgetUnresolvedCount = account.budgetUnresolvedCount)
      (hRevision : account'.budgetAccountingRevision = account.budgetAccountingRevision)
      (hWorkspace : account'.wsId = account.wsId) :
      Effect db { db with
        virtualKeys := db.virtualKeys.insert key account'
        checkpoints := db.checkpoints.insert (key, account.budgetAccountingRevision) row }
  /-- A new account with its first checkpoint. -/
  | created {db : Db} {key : Uuid} {account : AccountRow} {row : CheckpointRow}
      (hFresh : db.checkpoints.lookup (key, 0) = none)
      (hUsed : account.budgetUsed = .zero) (hPending : account.budgetPendingCount = 0)
      (hUnresolved : account.budgetUnresolvedCount = 0) (hCost : row.accountedCostUsd = .zero) :
      Effect db { db with
        virtualKeys := db.virtualKeys.insert key account
        checkpoints := db.checkpoints.insert (key, 0) row }
  | deleted {db : Db} {key : Uuid} : Effect db { db with virtualKeys := db.virtualKeys.erase key }
  | trans {db middle db' : Db} (hFirst : Effect db middle) (hSecond : Effect middle db') :
      Effect db db'

theorem Effect.consistent {db db' : Db} (hEffect : Effect db db') (h : Consistent db) :
    Consistent db' := by
  induction hEffect with
  | quiet hAccounts hLedger hCheckpoints => exact h.quiet hAccounts hLedger hCheckpoints
  | dispatched hFound hStatus hFollows hStatus' hChecked =>
    exact h.dispatch hFound hStatus hFollows hStatus' hChecked
  | posted hPosting _ => exact h.post hPosting
  | checkpointed hFound hFresh hCost hUsed hPending hUnresolved hRevision hWorkspace =>
    exact h.checkpoint hFound hFresh hCost hUsed hPending hUnresolved hRevision hWorkspace
  | created hFresh hUsed hPending hUnresolved hCost =>
    exact h.create hFresh hUsed hPending hUnresolved hCost
  | deleted => exact h.delete
  | trans _ _ ihFirst ihSecond => exact ihSecond (ihFirst h)

/-- A rebuild posts its events, and takes a checkpoint of what it posted. -/
theorem Consistent.rebuild_effect {libs : External} {db : Db} {command : NormalizedRebuildCommand}
    {scan : RebuildScan} {auditId : Uuid} {account account' : AccountRow} {audit : LedgerRow}
    {row : CheckpointRow} {now : Nat} (h : Consistent db)
    (hRebuilds : Rebuilds libs db command scan auditId account audit now account')
    (hFresh : db.checkpoints.lookup
      (command.virtualKeyId, account.budgetAccountingRevision + 1) = none)
    (hCost : row.accountedCostUsd = scan.recomputedUsedUsd) :
    Effect db { db with
      virtualKeys := db.virtualKeys.insert command.virtualKeyId account'
      ledger := update (closesIssue command account.budgetAccountingRevision)
        (closedIssue command auditId (account.budgetAccountingRevision + 1) now)
        (db.ledger.insert auditId audit)
      checkpoints := db.checkpoints.insert
        (command.virtualKeyId, account.budgetAccountingRevision + 1) row } := by
  -- the account between the two, whose tail is not yet reset
  obtain ⟨posted, hPosted⟩ : ∃ posted : AccountRow, posted =
      { account' with budgetCheckpointTailEvents := account.budgetCheckpointTailEvents } :=
    ⟨_, rfl⟩
  have hPostedRebuilds : Rebuilds libs db command scan auditId account audit now posted := by
    subst hPosted
    exact { hRebuilds with }
  obtain ⟨olds, news, hPosting, hNone⟩ := Posting.rebuild h hPostedRebuilds
  refine .trans (.posted hPosting ?_) ?_
  · rw [hNone, hPosted]
    exact le_rfl
  · have hPostedRevision := hPostedRebuilds.revision
    have hCheckpoint : ∀ ledger, Effect
        { db with
          virtualKeys := db.virtualKeys.insert command.virtualKeyId posted
          ledger := ledger }
        { db with
          virtualKeys :=
            (db.virtualKeys.insert command.virtualKeyId posted).insert command.virtualKeyId account'
          ledger := ledger
          checkpoints := db.checkpoints.insert
            (command.virtualKeyId, posted.budgetAccountingRevision) row } := by
      intro ledger
      refine .checkpointed (AList.lookup_insert _) ?_ ?_ ?_ ?_ ?_ ?_ ?_
      · rw [hPostedRevision]
        exact hFresh
      · rw [hPosted]
        exact hCost.trans hRebuilds.used.symm
      all_goals rw [hPosted]
    simp only [AList.insert_insert, hPostedRevision] at hCheckpoint
    exact hCheckpoint _

/-! ## Every move keeps the agreement -/

/-- What holds of every reachable system. -/
structure System.Invariant (sys : System) : Prop where
  consistent : Consistent sys.db
  sound : ∀ rebuild ∈ sys.rebuilds, rebuild.scan.Sound sys.db rebuild.command.virtualKeyId

section Moves

variable {libs : External} {sys : System} {subject : Subject} {db' : Db}

/-- **Effects.** Every move of a reachable system is an effect on its account. -/
theorem Move.effect (hMove : Move libs sys subject db') (h : sys.Invariant) :
    Effect sys.db db' := by
  have hDb := h.consistent
  cases hMove with
  | quiet hAccounts hLedger hCheckpoints _ => exact .quiet hAccounts hLedger hCheckpoints
  | opened hPosts hAppends hKind hRequest hUnique hStatus hUsed hPending hUnresolved =>
    obtain ⟨hPendingRow, hUnresolvedRow, hCharge⟩ := weights_of_pending hStatus
    have hUsed := congrArg Usd.units hUsed
    refine .posted (Posting.append hPosts hAppends (by omega) (by omega) (by omega)) ?_
    simp [hPosts.tail, inState, hStatus]
  | dispatched hFound hStatus hFollows hStatus' hChecks =>
    exact .dispatched hFound hStatus hFollows hStatus' (kindStatusValid_of_checks hChecks)
  | settled hPosts hRewrites hStatus' hCost hReleases hUsed =>
    obtain ⟨hPendingRow, hUnresolvedRow, hCharge⟩ := weights_of_settled hStatus' hCost
    obtain ⟨hPending, hUnresolved⟩ := hReleases.counts hRewrites.status
    refine .posted (Posting.rewrite hPosts hDb hRewrites (by omega) (by omega) (by omega)) ?_
    simp [hPosts.tail, inState, hStatus']
  | suspended hPosts hRewrites hStatus' hSuspends =>
    obtain ⟨hPendingRow, hUnresolvedRow, hCharge⟩ := weights_of_unresolved hStatus'
    obtain ⟨hPending, hUnresolved⟩ := hSuspends.counts hRewrites.status
    have hUsed := congrArg Usd.units hSuspends.used
    refine .posted (Posting.rewrite hPosts hDb hRewrites (by omega) (by omega) (by omega)) ?_
    simp [hPosts.tail, inState, hStatus']
  | @reconciled key id childId account account' row row' child amount hPosts hRewrites hAppends
      hStatus' hIntent hKind hParent hChild hCost hReleases hUsed =>
    obtain ⟨hPendingRow, hUnresolvedRow, hCharge⟩ := weights_of_closed (.inl hStatus')
    obtain ⟨hPendingChild, hUnresolvedChild, hChargeChild⟩ : child.inState .pending = 0 ∧
        child.inState .unresolved = 0 ∧ child.charge = amount.units := by
      rcases hChild with hSettled | ⟨hWaived, hZero⟩
      · exact weights_of_settled hSettled hCost
      · rw [hZero]
        exact weights_of_closed (.inr hWaived)
    obtain ⟨hPending, hUnresolved⟩ := hReleases.counts hRewrites.status
    have hFound : (sys.db.ledger.insert childId child).lookup id = some row := by
      rw [AList.lookup_insert_ne (hRewrites.ne_of_appends hAppends)]
      exact hRewrites.found
    have hEdit := (Table.Edit.insert (v := child) hAppends.fresh).trans
      (Table.Edit.replace (w := row') hFound)
    refine .posted (Posting.rewrite_append hPosts hDb hRewrites hAppends hEdit (List.Perm.swap ..)
      (by omega) (by omega) (by omega)) ?_
    have hTail := hPosts.tail
    have hOnce : child.inState .settled ≤ 1 := by
      unfold inState
      split <;> omega
    have hClosed : row'.inState .settled = 0 := by simp [inState, hStatus']
    simp only [List.cons_append, List.nil_append, List.map_cons, List.map_nil, List.sum_cons,
      List.sum_nil]
    omega
  | @attempted key id attemptId account account' row row' attempt hPosts hRewrites hAppends
      hStatus' hKind hAttempt hSuspends =>
    obtain ⟨hPendingRow, hUnresolvedRow, hCharge⟩ := weights_of_unresolved hStatus'
    obtain ⟨hPendingChild, hUnresolvedChild, hChargeChild⟩ := weights_of_closed (.inl hAttempt)
    obtain ⟨hPending, hUnresolved⟩ := hSuspends.counts hRewrites.status
    have hUsed := congrArg Usd.units hSuspends.used
    have hFresh : (sys.db.ledger.insert id row').lookup attemptId = none := by
      rw [AList.lookup_insert_ne (hRewrites.ne_of_appends hAppends).symm]
      exact hAppends.fresh
    have hEdit := (Table.Edit.replace (w := row') hRewrites.found).trans
      (Table.Edit.insert (v := attempt) hFresh)
    refine .posted (Posting.rewrite_append hPosts hDb hRewrites hAppends hEdit (List.Perm.refl _)
      (by omega) (by omega) (by omega)) ?_
    simp [hPosts.tail, inState, hStatus', hAttempt]
  | flagged hPosts hAppends hKind hStatus hUsed hPending hUnresolved =>
    obtain ⟨hPendingRow, hUnresolvedRow, hCharge⟩ := weights_of_unresolved hStatus
    have hUsed := congrArg Usd.units hUsed
    refine .posted (Posting.append hPosts hAppends (by omega) (by omega) (by omega)) ?_
    simp [hPosts.tail, inState, hStatus]
  | checkpointed hFound hFresh hCost hAccount' =>
    refine .checkpointed hFound hFresh hCost ?_ ?_ ?_ ?_ ?_ <;> rw [hAccount']
  | @rebuilt rebuild auditId account account' audit row now hScan hFound hCurrent hAppends hKind
      hStatus hClosed hChecks hFresh hCost hUsed hPending hUnresolved hRevision hTail hWorkspace =>
    exact hDb.rebuild_effect ⟨h.sound rebuild hScan, hFound, hCurrent, hAppends, hKind, hStatus,
      hClosed, hChecks, hUsed, hPending, hUnresolved, hRevision, hWorkspace⟩ hFresh hCost
  | edited hPosts hUsed hPending hUnresolved =>
    refine .posted (Posting.edit_account hPosts hUsed hPending hUnresolved) ?_
    simp [hPosts.tail]
  | created hFresh hFreshCheckpoint hUsed hPending hUnresolved hRevision hTail hCost =>
    exact .created hFreshCheckpoint hUsed hPending hUnresolved hCost
  | deleted hFound hPending hUnresolved => exact .deleted

theorem Move.consistent (hMove : Move libs sys subject db') (h : sys.Invariant) : Consistent db' :=
  (hMove.effect h).consistent h.consistent

/-- An account moves on to a later revision, or keeps what it stores. -/
def AccountRow.Advances (account account' : AccountRow) : Prop :=
  account.budgetAccountingRevision < account'.budgetAccountingRevision ∨
    (account'.budgetAccountingRevision = account.budgetAccountingRevision ∧
      account'.budgetUsed = account.budgetUsed ∧
      account'.budgetPendingCount = account.budgetPendingCount ∧
      account'.budgetUnresolvedCount = account.budgetUnresolvedCount)

theorem AccountRow.Advances.refl (account : AccountRow) : account.Advances account :=
  .inr ⟨rfl, rfl, rfl, rfl⟩

variable {key : Uuid} {account account' : AccountRow}

theorem Posts.advances {db : Db} {events : Nat} (hPosts : Posts db key account account' events) :
    account.Advances account' :=
  .inl (by rw [hPosts.revision]; omega)

variable {found : AccountRow}

theorem advances_insert {accounts : AList fun _ : Uuid => AccountRow} {key' : Uuid}
    (hAccount : accounts.lookup key = some account) (hAdvances : account.Advances account')
    (hFound : (accounts.insert key account').lookup key' = some found) :
    ∃ before, accounts.lookup key' = some before ∧ before.Advances found := by
  obtain ⟨rfl, rfl⟩ | ⟨-, hOld⟩ := lookup_insert_cases hFound
  · exact ⟨account, hAccount, hAdvances⟩
  · exact ⟨found, hOld, .refl found⟩

theorem Move.advances (hMove : Move libs sys subject db')
    (hGenesis : sys.db.checkpoints.lookup (key, 0) ≠ none)
    (hFound : db'.virtualKeys.lookup key = some found) :
    ∃ before, sys.db.virtualKeys.lookup key = some before ∧ before.Advances found := by
  cases hMove with
  | quiet hAccounts _ _ _ => exact ⟨found, hAccounts ▸ hFound, .refl found⟩
  | dispatched _ _ _ _ _ => exact ⟨found, hFound, .refl found⟩
  | opened hPosts _ _ _ _ _ _ _ _ | settled hPosts _ _ _ _ _ | suspended hPosts _ _ _
  | reconciled hPosts _ _ _ _ _ _ _ _ _ _ | attempted hPosts _ _ _ _ _ _
  | flagged hPosts _ _ _ _ _ _ | edited hPosts _ _ _ =>
    exact advances_insert hPosts.found hPosts.advances hFound
  | checkpointed hAccount _ _ hAccount' =>
    refine advances_insert hAccount (.inr ?_) hFound
    rw [hAccount']
    exact ⟨rfl, rfl, rfl, rfl⟩
  | rebuilt _ hAccount _ _ _ _ _ _ _ _ _ _ _ hRevision _ _ =>
    exact advances_insert hAccount (.inl (by omega)) hFound
  | created _ hFresh _ _ _ _ _ _ =>
    obtain ⟨rfl, -⟩ | ⟨-, hOld⟩ := lookup_insert_cases hFound
    · exact absurd hFresh hGenesis
    · exact ⟨found, hOld, .refl found⟩
  | @deleted key' _ _ _ _ =>
    by_cases hKey : key = key'
    · subst hKey
      simp [AList.lookup_erase] at hFound
    · exact ⟨found, (AList.lookup_erase_ne hKey).symm.trans hFound, .refl found⟩

theorem Move.checkpoint_kept (hMove : Move libs sys subject db') {at' : Uuid × Nat}
    (h : sys.db.checkpoints.lookup at' ≠ none) : db'.checkpoints.lookup at' ≠ none := by
  cases hMove with
  | quiet _ _ hCheckpoints _ => exact hCheckpoints ▸ h
  | checkpointed _ _ _ _ | rebuilt _ _ _ _ _ _ _ _ _ _ _ _ _ _ _ _ | created _ _ _ _ _ _ _ _ =>
    exact lookup_insert_ne_none h
  | _ => exact h

theorem RebuildScan.Sound.move {scan : RebuildScan} (h : scan.Sound sys.db key)
    (hMove : Move libs sys subject db') : scan.Sound db' key where
  genesis := hMove.checkpoint_kept h.genesis
  revision account hFound := by
    obtain ⟨before, hBefore, hAdvances⟩ := hMove.advances h.genesis hFound
    have hLe := h.revision before hBefore
    rcases hAdvances with hLater | ⟨hSame, -⟩ <;> omega
  current account hFound hCurrent := by
    obtain ⟨before, hBefore, hAdvances⟩ := hMove.advances h.genesis hFound
    have hLe := h.revision before hBefore
    rcases hAdvances with hLater | ⟨hSame, hUsed, hPending, hUnresolved⟩
    · omega
    · rw [hUsed, hPending, hUnresolved]
      exact h.current before hBefore (hCurrent.trans hSame)

end Moves

/-! ## Scans -/

section Scans

variable {db : Db} {key : Uuid} {account : AccountRow} {scope : BudgetAdminScope}

theorem Usd.ext_units {a b : Usd} (h : a.units = b.units) : a = b := by
  cases a
  cases b
  simp_all

variable {cond cond' : LedgerRow → Bool} {revision : Nat} {row : LedgerRow} {id : Uuid}

theorem inScope_of_counts
    (hForeign : db.countRows key (fun row => cond row && isForeign scope revision row) = 0)
    (hFuture : db.countRows key (fun row => cond row && isFuture revision row) = 0)
    (hRow : db.ledger.lookup id = some row) (hKey : row.virtualKeyId = key) (hCond : cond row) :
    inScope scope revision row := by
  have hNotForeign := total_eq_zero_iff.mp hForeign id row hRow
  have hNotFuture := total_eq_zero_iff.mp hFuture id row hRow
  simp only [hKey, hCond, Bool.true_and, true_and, ite_eq_right_iff, one_ne_zero, imp_false,
    isForeign, isFuture, Bool.and_eq_true, decide_eq_true_eq, not_lt, not_and,
    Bool.not_eq_true', Bool.not_eq_false] at hNotForeign hNotFuture
  simp only [inScope, Bool.and_eq_true, decide_eq_true_eq]
  exact ⟨hNotFuture, hNotForeign hNotFuture⟩

theorem countRows_congr (h : ∀ id row, db.ledger.lookup id = some row → row.virtualKeyId = key →
      cond row = cond' row) : db.countRows key cond = db.countRows key cond' := by
  refine total_congr fun entry hEntry => ?_
  by_cases hKey : entry.2.virtualKeyId = key
  · rw [h entry.1 entry.2 (lookup_eq_some_iff.mpr hEntry) hKey]
  · simp [hKey]

theorem sumCosts_congr (h : ∀ id row, db.ledger.lookup id = some row → row.virtualKeyId = key →
      cond row = cond' row) : db.sumCosts key cond = db.sumCosts key cond' := by
  refine total_congr fun entry hEntry => ?_
  by_cases hKey : entry.2.virtualKeyId = key
  · rw [h entry.1 entry.2 (lookup_eq_some_iff.mpr hEntry) hKey]
  · simp [hKey]

theorem countRows_add {cond'' : LedgerRow → Bool}
    (h : ∀ id row, db.ledger.lookup id = some row → row.virtualKeyId = key →
      (cond row).toNat + (cond' row).toNat = (cond'' row).toNat) :
    db.countRows key cond + db.countRows key cond' = db.countRows key cond'' := by
  unfold Db.countRows
  rw [← total_add]
  refine total_congr fun entry hEntry => ?_
  by_cases hKey : entry.2.virtualKeyId = key
  · have hEntry := h entry.1 entry.2 (lookup_eq_some_iff.mpr hEntry) hKey
    simp only [hKey, true_and]
    revert hEntry
    cases cond entry.2 <;> cases cond' entry.2 <;> cases cond'' entry.2 <;> simp
  · simp [hKey]

theorem Consistent.latestCheckpointUpTo (h : Consistent db)
    (hFound : db.virtualKeys.lookup key = some account) :
    db.latestCheckpointUpTo key account.budgetAccountingRevision = db.latestCheckpoint key := by
  unfold Db.latestCheckpointUpTo Db.latestCheckpoint
  rw [List.filter_eq_self.mpr]
  intro entry hEntry
  rw [decide_eq_true_eq]
  exact h.checkpointRevision key entry.1 entry.2 account (mem_checkpointsOf.mp hEntry) hFound

theorem units_of_databaseNumeric {sum : Nat} {amount : Usd}
    (h : databaseNumericToBudgetAmount sum = .ok amount) : amount.units = sum := by
  unfold databaseNumericToBudgetAmount at h
  split at h
  · cases h
    rfl
  · cases h

theorem kind_of_unresolved (hChecked : row.kindStatusValid)
    (hStatus : row.status = .unresolved) : row.kind = .request ∨ row.kind = .accountIssue := by
  cases hKind : row.kind <;> simp_all [kindStatusValid]

/-- **A scan finds what the account stores.** -/
theorem Consistent.scan (h : Consistent db) (store : PgBudgetStore) (key : Uuid)
    (scope : BudgetAdminScope) :
    Ends (scanRebuildSnapshot store key scope) db (fun scan db' => db' = db ∧
      ∃ account, db.virtualKeys.lookup key = some account ∧
        scan.account = account.intoSnapshot key ∧
        scan.recomputedUsedUsd = account.budgetUsed ∧
        scan.pendingCount = account.budgetPendingCount ∧
        scan.unresolvedRequestCount + scan.openAccountIssueCount =
          account.budgetUnresolvedCount) fun _ => True := by
  simp only [scanRebuildSnapshot, ends_bind]
  refine ends_beginWrite ?_ fun _ => trivial
  refine ends_lockScopedAccount (fun account hAccount => ?_) trivial fun _ => trivial
  simp only [ends_rules, vacuous]
  rintro ⟨checkpointRevision, checkpoint⟩ hCheckpoint ⟨hForeignTail, hFutureTail, hForeignOpen,
    hFutureOpen⟩ tailAmount hTail recomputed hRecomputed
  have hLatest := (h.latestCheckpointUpTo hAccount).symm.trans hCheckpoint
  have hInTail : ∀ id row, db.ledger.lookup id = some row → row.virtualKeyId = key →
      isTail checkpointRevision row →
      inScope scope (account.intoSnapshot key).accountingRevision row :=
    fun id row hRow hKey hCond => inScope_of_counts hForeignTail hFutureTail hRow hKey hCond
  have hInOpen : ∀ id row, db.ledger.lookup id = some row → row.virtualKeyId = key →
      isOpen row → inScope scope (account.intoSnapshot key).accountingRevision row :=
    fun id row hRow hKey hCond => inScope_of_counts hForeignOpen hFutureOpen hRow hKey hCond
  refine ⟨trivial, account, hAccount, rfl, ?_, ?_, ?_⟩
  · have hSum := Usd.units_of_checkedAdd hRecomputed
    rw [units_of_databaseNumeric hTail] at hSum
    have hUsed := h.used key account hAccount
    simp only [Db.derivedUsed, hLatest] at hUsed
    refine Usd.ext_units (hSum.trans (Eq.trans ?_ hUsed.symm))
    congr 1
    refine sumCosts_congr fun id row hRow hKey => ?_
    cases hCond : isTail checkpointRevision row with
    | false => rfl
    | true => exact hInTail id row hRow hKey hCond
  · rw [h.pending key account hAccount]
    refine countRows_congr fun id row hRow hKey => ?_
    by_cases hStatus : row.status = .pending
    · have hScope := hInOpen id row hRow hKey (by simp [isOpen, hStatus])
      simp [isOpen, hStatus, hScope]
    · have hOther : (row.status == .pending) = false := by simpa using hStatus
      simp [hOther]
  · rw [h.unresolved key account hAccount]
    refine countRows_add fun id row hRow hKey => ?_
    by_cases hStatus : row.status = .unresolved
    · have hScope := hInOpen id row hRow hKey (by simp [isOpen, hStatus])
      rcases kind_of_unresolved (h.checked id row hRow) hStatus with hKind | hKind
      · simp [isOpen, hStatus, hScope, hKind]
      · simp [isOpen, hStatus, hScope, hKind]
    · have hOther : (row.status == .unresolved) = false := by simpa using hStatus
      simp [hOther]

theorem Consistent.inScope (h : Consistent db) (hFound : db.virtualKeys.lookup key = some account)
    (hScope : scope.contains account.wsId) (hRow : db.ledger.lookup id = some row)
    (hKey : row.virtualKeyId = key) : inScope scope account.budgetAccountingRevision row := by
  have hRevision := h.rowRevision id row account hRow (hKey ▸ hFound)
  have hWorkspace := h.rowWorkspace id row account hRow (hKey ▸ hFound)
  simp only [Budget.inScope, Bool.and_eq_true, decide_eq_true_eq, hWorkspace]
  exact ⟨hRevision, hScope⟩

theorem Consistent.countRows_eq_zero (h : Consistent db)
    (hFound : db.virtualKeys.lookup key = some account) (hScope : scope.contains account.wsId)
    (hOut : ∀ row, Budget.inScope scope account.budgetAccountingRevision row → cond row = false) :
    db.countRows key cond = 0 := by
  refine total_eq_zero_iff.mpr fun id row hRow => ?_
  rw [if_neg]
  rintro ⟨hKey, hCond⟩
  rw [hOut row (h.inScope hFound hScope hRow hKey)] at hCond
  cases hCond

theorem isForeign_of_inScope
    (h : Budget.inScope scope revision row) : isForeign scope revision row = false := by
  simp only [Budget.inScope, Bool.and_eq_true] at h
  simp [isForeign, h.2]

theorem isFuture_of_inScope
    (h : Budget.inScope scope revision row) : isFuture revision row = false := by
  simp only [Budget.inScope, Bool.and_eq_true, decide_eq_true_eq] at h
  simpa [isFuture] using h.1

/-- **A scan of an account in scope succeeds.** -/
theorem Consistent.scan_succeeds (h : Consistent db) {store : PgBudgetStore}
    (hFits : asMillis store.config.statementTimeout < Machine.WORD)
    (hFound : db.virtualKeys.lookup key = some account) (hScope : scope.contains account.wsId) :
    Ends (scanRebuildSnapshot store key scope) db (fun _ _ => True) fun _ => False := by
  obtain ⟨revision, checkpoint, hLatest, -⟩ := h.exists_latest hFound
  have hUpTo := (h.latestCheckpointUpTo hFound).trans hLatest
  have hUsed := h.used key account hFound
  have hBound := account.budgetUsed.inRange
  simp only [Db.derivedUsed, hLatest] at hUsed
  have hTail : db.sumCosts key (fun row =>
      isTail revision row && Budget.inScope scope account.budgetAccountingRevision row) =
      db.sumCosts key (isTail revision) :=
    sumCosts_congr fun id row hRow hKey => by
      rw [h.inScope hFound hScope hRow hKey, Bool.and_true]
  have hForeign : ∀ cond : LedgerRow → Bool, db.countRows key (fun row =>
      cond row && isForeign scope account.budgetAccountingRevision row) = 0 := fun cond =>
    h.countRows_eq_zero hFound hScope fun row hRow => by
      rw [isForeign_of_inScope hRow, Bool.and_false]
  have hFuture : ∀ cond : LedgerRow → Bool, db.countRows key (fun row =>
      cond row && isFuture account.budgetAccountingRevision row) = 0 := fun cond =>
    h.countRows_eq_zero hFound hScope fun row hRow => by
      rw [isFuture_of_inScope hRow, Bool.and_false]
  simp only [scanRebuildSnapshot, ends_bind]
  refine ends_beginWrite_of_fits hFits ?_
  refine ends_lockScopedAccount_of_found hFound hScope ?_
  simp only [ends_rules, true_and, vacuous]
  refine ⟨?_, fun hNone => ?_⟩
  · rintro _ hCheckpoint
    obtain rfl := Option.mem_unique hUpTo hCheckpoint
    refine ⟨fun _ => ⟨fun tailAmount hTailAmount hNone => ?_, fun e hError => ?_⟩,
      fun hCounts => ?_⟩
    · have hUnits := (units_of_databaseNumeric hTailAmount).trans hTail
      have hSum : checkpoint.accountedCostUsd.units + tailAmount.units < NUMERIC_BOUND := by omega
      rw [Usd.checkedAdd_eq_add?, Usd.add?, dif_pos hSum] at hNone
      cases hNone
    · unfold databaseNumericToBudgetAmount at hError
      split at hError
      · cases hError
      · next hLarge => exact hLarge (hTail.trans_lt (by omega))
    · exact hCounts ⟨hForeign _, hFuture _, hForeign _, hFuture _⟩
  · exact absurd (hUpTo.symm.trans hNone) (by simp)

end Scans

/-! ## Runs -/

section Runs

variable {libs : External} {sys : System}

theorem perform_rebuilds {call : Call} {rebuild : InFlight}
    (h : rebuild ∈ (perform libs sys call).rebuilds) :
    rebuild ∈ sys.rebuilds ∨ ((perform libs sys call).db = sys.db ∧ ∃ store,
      (execute (scanRebuildSnapshot store rebuild.command.virtualKeyId rebuild.command.scope)
        sys.db).1 = .ok rebuild.scan) := by
  cases call with
  | scanRebuild store command =>
    simp only [perform, System.scan] at h ⊢
    split at h
    · exact .inl h
    · split at h
      · exact .inl h
      · next hScan =>
        split at h
        · exact .inl h
        · rcases List.mem_cons.mp h with rfl | hOld
          · exact .inr ⟨by simp_all, store, hScan⟩
          · exact .inl hOld
  | applyRebuild store index auditId now =>
    simp only [perform, System.applyRebuild] at h
    split at h
    · exact .inl h
    · exact .inl (List.mem_of_mem_eraseIdx h)
  | _ => exact .inl h

theorem Consistent.sound {db : Db} (h : Consistent db) {store : PgBudgetStore} {key : Uuid}
    {scope : BudgetAdminScope} {scan : RebuildScan}
    (hScan : (execute (scanRebuildSnapshot store key scope) db).1 = .ok scan) :
    scan.Sound db key := by
  obtain ⟨found, db', hRun, -, account, hAccount, hSnapshot, hFacts⟩ | ⟨e, hRun, -⟩ :=
    execute_of_ends (h.scan store key scope)
  · rw [hRun] at hScan
    obtain rfl : found = scan := Except.ok.inj hScan
    have hRevision : found.account.accountingRevision = account.budgetAccountingRevision := by
      rw [hSnapshot]
      rfl
    refine ⟨h.accountGenesis key account hAccount, ?_, ?_⟩
    · intro account' hAccount'
      obtain rfl := Option.mem_unique hAccount hAccount'
      exact hRevision.le
    · intro account' hAccount' _
      obtain rfl := Option.mem_unique hAccount hAccount'
      exact hFacts
  · rw [hRun] at hScan
    cases hScan

theorem System.Invariant.perform (h : sys.Invariant) (call : Call) :
    (perform libs sys call).Invariant where
  consistent := (perform_move call).consistent h
  sound rebuild hRebuild := by
    rcases perform_rebuilds hRebuild with hOld | ⟨hDb, store, hScan⟩
    · exact (h.sound rebuild hOld).move (perform_move call)
    · rw [hDb]
      exact h.consistent.sound hScan

theorem System.Invariant.run (h : sys.Invariant) (libs : External) (calls : List Call) :
    (runCalls libs sys calls).Invariant := by
  induction calls generalizing sys with
  | nil => exact h
  | cons call calls ih => exact ih (h.perform call)

end Runs

end KongRust.Budget
