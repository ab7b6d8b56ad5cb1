import KongRust.Budget.Turns

/-!
# Every transaction is a move

One lemma for each transaction of the store: whatever it commits is one of the moves, and a
transaction that works on an intent changes the ledger by turns. Failures need no attention here: a
failed transaction leaves the database as it was.
-/

namespace KongRust.Budget

open Transaction

variable {libs : External} {store : PgBudgetStore} {sys : System}

variable {subject : Subject} {account : AccountRow} {revision now : Nat} {db : Db}
  {key issueId : Uuid} {command : SettleBudgetIntent} {existing parent : LedgerRow}
  {post : Unit → Db → Prop}

theorem move_unchanged : Move libs sys subject sys.db :=
  .quiet rfl rfl rfl fun _ => ⟨rfl, rfl⟩

/-- Everything this transaction commits is a move of a call that works on the subject. -/
def Moves {α : Type} (libs : External) (sys : System) (subject : Subject) (t : Tx α) : Prop :=
  Ends t sys.db (fun _ db' => Move libs sys subject db') fun _ => True

/-- Everything this transaction commits is a move of the call, made of turns. -/
def Advances {α : Type} (libs : External) (sys : System) (call : Call) (t : Tx α) : Prop :=
  Ends t sys.db (fun _ db' => Move libs sys call.subject db' ∧ Turns sys.db call db'.ledger)
    fun _ => True

theorem advance_unchanged {call : Call} :
    Move libs sys call.subject sys.db ∧ Turns sys.db call sys.db.ledger :=
  ⟨move_unchanged, .unchanged⟩

/-! ## Revisions -/

theorem checkedAddI64_eq {a b c : Nat} (h : checkedAddI64 a b = some c) : c = a + b := by
  simp only [checkedAddI64, Machine.checkedAdd_eq_some] at h
  exact h.2.symm

theorem checkedNextRevision_eq {account : BudgetAccountSnapshot}
    (h : checkedNextRevision account = .ok revision) :
    revision = account.accountingRevision + 1 := by
  simp only [checkedNextRevision] at h
  split at h
  · cases h
  · split at h
    · cases h
    · next hRevision =>
      cases h
      exact checkedAddI64_eq hRevision

theorem checkedSettleRevision_eq {account : BudgetAccountSnapshot}
    (h : checkedSettleRevision account = .ok revision) :
    revision = account.accountingRevision + 1 := by
  simp only [checkedSettleRevision] at h
  split at h
  · cases h
  · next hRevision =>
    split at h
    · cases h
    · cases h
      exact checkedAddI64_eq hRevision

theorem nextAdminRevision_eq {account : BudgetAccountSnapshot} {events : Nat}
    (h : nextAdminRevision account events = .ok revision) :
    revision = account.accountingRevision + 1 := by
  simp only [nextAdminRevision] at h
  split at h
  · cases h
  · split at h
    · cases h
    · next hRevision =>
      cases h
      exact checkedAddI64_eq hRevision

variable {db' : Db} {id existingId virtualKeyId auditId : Uuid} {hardTail : Nat} {amount : Usd}
  {scope : BudgetAdminScope} {rebuild : InFlight}

theorem rewrites_of_accepts (account : AccountRow) {row row' : LedgerRow}
    (hFound : db.ledger.lookup id = some row) (hKey : row.virtualKeyId = key)
    (hStatus : row.status = .pending ∨ row.status = .unresolved)
    (hAccepted : db'.acceptsLedger libs id row' = .ok ())
    (hFollows : row'.Follows row (account.budgetAccountingRevision + 1)) :
    Rewrites libs db key account id row row' :=
  ⟨hFound, hKey, hStatus, hFollows, satisfiesChecks_of_accepts hAccepted⟩

variable (status : BudgetLedgerStatus)

theorem wsId_releaseCount (row : AccountRow) : (releaseCount status row).wsId = row.wsId := by
  unfold releaseCount
  split <;> rfl

theorem wsId_suspendCount (row : AccountRow) : (suspendCount status row).wsId = row.wsId := by
  unfold suspendCount
  split <;> rfl

/-! ## Creating and dispatching -/

variable {call : Call}

theorem createReplayed_advances {command : CreateBudgetIntent} {account : BudgetAccountSnapshot} :
    Advances libs sys call (createReplayed command id existing account) := by
  simp only [Advances, createReplayed, ends_rules, vacuous]
  exact fun _ _ _ _ => advance_unchanged

theorem createEligible_advances {command : CreateBudgetIntent} {settings : RuntimeSettingsRow}
    (hAccount : sys.db.virtualKeys.lookup command.virtualKeyId = some account)
    (hSettings : sys.db.runtimeSettings.lookup store.config.deploymentNamespace = some settings)
    (hTail : account.budgetCheckpointTailEvents < settings.checkpointHardTailEvents) :
    Advances libs sys (.createIntent store command now) (createEligible libs store command
      (account.intoSnapshot command.virtualKeyId) settings.checkpointHardTailEvents now) := by
  simp only [Advances, createEligible, ends_rules, ends_ownerIsLive, vacuous]
  intro hOwner newRevision hRevision _ _ _ _
  obtain rfl := checkedAddI64_eq hRevision
  obtain ⟨owner, hLookup, hLive⟩ := (Option.any_eq_true ..).mp hOwner
  simp only [Bool.and_eq_true] at hLive
  refine ends_insertIntent (fun hFresh hAccepted => ?_) ?_ fun _ _ => trivial
  · simp only [if_true, ends_rules, vacuous]
    refine commits_updateFound hAccount ?_
    rintro hCond _ ⟨rfl⟩ _ _
    refine ⟨.opened ⟨hAccount, rfl, rfl, rfl⟩
      ⟨hFresh, rfl, rfl, rfl, satisfiesChecks_of_accepts hAccepted⟩ rfl rfl
      (fun id' other hOther => ?_) rfl rfl rfl rfl,
      Turns.unchanged.append (fun _ => rfl) hFresh
        (.intent rfl hAccount hSettings hTail hLookup hLive.2)⟩
    refine requestId_of_accepts hAccepted hOther ?_ rfl
    rintro rfl
    exact absurd (hFresh.symm.trans hOther) (by simp)
  · simp only [Bool.false_eq_true, if_false, ends_rules, ends_lockIntentByRequest, vacuous]
    exact fun _ _ => createReplayed_advances

variable {inspection : BudgetInspection}

theorem inspectAccount_account {account : BudgetAccountSnapshot}
    (h : inspectAccount account hardTail = .ok inspection) : inspection.account = account := by
  unfold inspectAccount at h
  simp only [bind, Except.bind] at h
  repeat' split at h
  all_goals first
    | cases h; rfl
    | cases h

theorem inspectAccount_tail {account : BudgetAccountSnapshot}
    (h : inspectAccount account hardTail = .ok inspection) :
    account.checkpointTailEvents < hardTail := by
  by_contra hFull
  simp only [inspectAccount, bind, Except.bind, not_lt.mp hFull, if_true, throw, throwThe,
    MonadExceptOf.throw] at h
  repeat' split at h
  all_goals cases h

theorem createIntent_advances {command : CreateBudgetIntent} :
    Advances libs sys (.createIntent store command now) (createIntent libs store command now) := by
  simp only [Advances, createIntent, ends_rules, vacuous]
  intro _ _ _ _
  refine ends_beginWrite ?_ fun _ => trivial
  refine ends_loadLockedAccount (fun account hAccount => ?_) trivial fun _ => trivial
  rw [ends_lockIntentByRequest]
  split
  · exact createReplayed_advances
  · simp only [ends_rules, vacuous]
    refine ends_loadAuthoritativeHardTail (fun settings hSettings => ?_) fun _ => trivial
    intro inspection hInspection
    rw [inspectAccount_account hInspection]
    split
    · exact advance_unchanged
    · trivial
    · exact createEligible_advances hAccount hSettings (inspectAccount_tail hInspection)

theorem markDispatching_advances {command : MarkBudgetDispatching} :
    Advances libs sys (.markDispatching store command now)
      (markDispatching libs store command now) := by
  simp only [Advances, markDispatching, ends_rules, ends_ite, ends_lockIntentById, ends_ownerIsLive,
    vacuous]
  intro _ _
  refine ends_beginWrite ?_ fun _ => trivial
  intro existing hExisting _ _ hStatus
  refine ⟨fun _ _ _ _ => advance_unchanged, fun _ hPrepared _ => ?_⟩
  refine commits_updateLedger fun row hRow hCond hAccepted => ?_
  intro _ _
  obtain rfl : existing = row := Option.mem_unique hExisting hRow
  exact ⟨.dispatched hExisting hStatus ⟨rfl, rfl, rfl, rfl, rfl, rfl⟩ hStatus
      (satisfiesChecks_of_accepts hAccepted),
    .rewrite hExisting (.dispatched rfl hStatus hPrepared.1 hStatus rfl rfl)⟩

/-! ## Settling -/

theorem markUnresolved_advances {observedCost : Option Usd} {reasons : List String}
    {usageFactId : Option Uuid} {terminalCommand : Option (String × String)}
    (hAccount : sys.db.virtualKeys.lookup key = some account)
    (hExisting : sys.db.ledger.lookup existingId = some existing)
    (hKey : existing.virtualKeyId = key)
    (hStatus : existing.status = .pending ∨ existing.status = .unresolved)
    (hSubject : call.subject = .intent existingId)
    (hTurn : ∀ row' : LedgerRow, row'.status = .unresolved →
      row'.dispatchState = existing.dispatchState → Turn sys.db existingId existing call row') :
    Advances libs sys call (markUnresolved libs (account.intoSnapshot key) existingId
      existing observedCost reasons usageFactId terminalCommand now) := by
  simp only [Advances, markUnresolved, ends_rules, vacuous]
  intro newRevision hRevision
  obtain rfl := checkedSettleRevision_eq hRevision
  refine ends_ensureCounted ?_ fun _ => trivial
  refine commits_updateFound hAccount ?_
  rintro hCond _ ⟨rfl⟩
  refine commits_updateLedger fun row hRow' hCond' hAccepted => ?_
  intro _ _
  obtain rfl : existing = row := Option.mem_unique hExisting hRow'
  simp only [Bool.and_eq_true, decide_eq_true_eq] at hCond
  have hRewrites := rewrites_of_accepts account hExisting hKey hStatus hAccepted
    ⟨rfl, rfl, rfl, rfl, rfl, rfl⟩
  rw [hSubject]
  refine ⟨.suspended ⟨hAccount, rfl, rfl, wsId_suspendCount ..⟩ hRewrites rfl
    ⟨hCond.1, rfl, rfl, ?_⟩, .rewrite hExisting (hTurn _ rfl rfl)⟩
  unfold suspendCount
  split <;> rfl

theorem units_of_add {a b c : Usd} (h : a.add? b = some c) : c.units = a.units + b.units := by
  rw [← Usd.checkedAdd_eq_add?] at h
  exact Usd.units_of_checkedAdd h

section

variable (hAccount : sys.db.virtualKeys.lookup command.virtualKeyId = some account)
  (hExisting : sys.db.ledger.lookup command.intentId = some existing)
  (hKey : existing.virtualKeyId = command.virtualKeyId)
include hAccount hExisting hKey

theorem settleApplied_advances
    (hStatus : existing.status = .pending ∨ existing.status = .unresolved)
    (hPrepared : existing.dispatchState = some .prepared → command.cost.status = .notIncurred) :
    Advances libs sys (.settle store command now) (settleApplied libs command
      (account.intoSnapshot command.virtualKeyId) existing amount now) := by
  simp only [Advances, settleApplied, ends_rules, vacuous]
  intro newRevision hRevision
  obtain rfl := checkedSettleRevision_eq hRevision
  refine ends_ensureCounted ?_ fun _ => trivial
  refine commits_updateFound hAccount fun hCond row' hChange => ?_
  obtain ⟨used, hUsed, rfl⟩ := Option.map_eq_some_iff.mp hChange
  refine commits_updateLedger fun row hRow' hCond' hAccepted => ?_
  intro _ _
  obtain rfl : existing = row := Option.mem_unique hExisting hRow'
  simp only [Bool.and_eq_true, decide_eq_true_eq] at hCond
  have hRewrites := rewrites_of_accepts account hExisting hKey hStatus hAccepted
    ⟨rfl, rfl, rfl, rfl, rfl, rfl⟩
  exact ⟨.settled ⟨hAccount, rfl, rfl, wsId_releaseCount ..⟩ hRewrites rfl rfl
      ⟨hCond.1.1, rfl, rfl⟩ (units_of_add hUsed),
    .rewrite hExisting (.settled rfl (isOpen_iff.mpr hStatus) hPrepared rfl rfl rfl)⟩

theorem settleOpen_advances :
    Advances libs sys (.settle store command now) (settleOpen libs command
      (account.intoSnapshot command.virtualKeyId) existing now) := by
  simp only [Advances, settleOpen, ends_rules, ends_ite, vacuous]
  intro hStatus hGuard normalizedCost _
  have hPrepared : existing.dispatchState = some .prepared →
      command.cost.status = .notIncurred := by
    intro hState
    by_contra hCost
    exact hGuard ⟨hState, hCost⟩
  have hSuspended : ∀ row' : LedgerRow, row'.status = .unresolved →
      row'.dispatchState = existing.dispatchState →
      Turn sys.db command.intentId existing (.settle store command now) row' :=
    fun row' hStatus' hDispatch => .suspended rfl (isOpen_iff.mpr hStatus) hStatus' hDispatch
  refine ⟨fun _ => ⟨fun _ _ _ => advance_unchanged, fun _ => ?_⟩, fun _ => ?_⟩
  · exact markUnresolved_advances hAccount hExisting hKey hStatus rfl hSuspended
  · split
    · rw [ends_bind]
      exact markUnresolved_advances hAccount hExisting hKey hStatus rfl hSuspended
    · exact settleApplied_advances hAccount hExisting hKey hStatus hPrepared

end

theorem verifyIntentIdentity_key {requestId : String} {ownerSessionId nodeId : Option Uuid}
    (h : verifyIntentIdentity existing virtualKeyId requestId ownerSessionId nodeId = .ok ()) :
    existing.virtualKeyId = virtualKeyId ∧ existing.requestId = some requestId := by
  unfold verifyIntentIdentity at h
  split at h
  · cases h
  · next hMatch =>
    simp only [not_or, not_not] at hMatch
    exact ⟨hMatch.1, hMatch.2.1⟩

theorem verifySettleIdentity_key {existing : LedgerRow} {command : SettleBudgetIntent}
    (h : verifySettleIdentity existing command = .ok ()) :
    existing.virtualKeyId = command.virtualKeyId ∧
      existing.requestId = some command.requestId := by
  unfold verifySettleIdentity at h
  cases hIdentity : verifyIntentIdentity existing command.virtualKeyId command.requestId none none with
  | ok _ => exact verifyIntentIdentity_key hIdentity
  | error _ => rw [hIdentity] at h; cases h

theorem settleDeleted_advances :
    Advances libs sys (.settle store command now) (settleDeleted command) := by
  simp only [Advances, settleDeleted, ends_rules, ends_lockIntentById, vacuous]
  exact fun _ _ _ _ _ _ _ _ => advance_unchanged

theorem settle_advances :
    Advances libs sys (.settle store command now) (settle libs store command now) := by
  simp only [Advances, settle, ends_rules, vacuous]
  intro _ _
  refine ends_beginWrite ?_ fun _ => trivial
  rw [ends_lockAccount]
  split
  · exact settleDeleted_advances
  · next account hAccount =>
    simp only [ends_rules, ends_lockIntentById, ends_ite, vacuous]
    intro _ _ existing hExisting _ hIdentity
    obtain ⟨hKey, _⟩ := verifySettleIdentity_key hIdentity
    exact ⟨fun _ _ _ _ => advance_unchanged, fun _ => ⟨fun _ _ _ _ _ => advance_unchanged,
      fun _ => settleOpen_advances hAccount hExisting hKey⟩⟩

/-! ## Recovery -/

variable {candidate : StaleIntentCandidate}

theorem recoverPrepared_advances (hAccount : sys.db.virtualKeys.lookup key = some account)
    (hExisting : sys.db.ledger.lookup candidate.intentId = some existing)
    (hKey : existing.virtualKeyId = key) (hStatus : existing.status = .pending)
    (hPrepared : existing.dispatchState = some .prepared)
    (hOwner : sys.db.ownerLive existing now = false) :
    Advances libs sys (.recoverStale store candidate now)
      (recoverPrepared libs (account.intoSnapshot key) candidate.intentId existing now) := by
  simp only [Advances, recoverPrepared, ends_rules, vacuous]
  intro _ newRevision hRevision requestId _
  obtain rfl := checkedNextRevision_eq hRevision
  refine commits_updateFound hAccount ?_
  rintro hCond _ ⟨rfl⟩
  refine commits_updateLedger fun row hRow' hCond' hAccepted => ?_
  obtain rfl : existing = row := Option.mem_unique hExisting hRow'
  simp only [Bool.and_eq_true, decide_eq_true_eq] at hCond
  have hRewrites := rewrites_of_accepts account hExisting hKey (.inl hStatus) hAccepted
    ⟨rfl, rfl, rfl, rfl, rfl, rfl⟩
  refine ⟨.settled ⟨hAccount, rfl, rfl, rfl⟩ hRewrites rfl rfl ?_ rfl,
    .rewrite hExisting (.recovered rfl hStatus hPrepared hOwner rfl rfl rfl)⟩
  rw [hStatus]
  exact ⟨hCond.1, rfl, rfl⟩

theorem recoverStaleCandidate_advances :
    Advances libs sys (.recoverStale store candidate now)
      (recoverStaleCandidate libs store candidate now) := by
  simp only [Advances, recoverStaleCandidate, ends_rules, ends_lockIntentById]
  refine ends_beginWrite ?_ fun _ => trivial
  refine ends_loadAuthoritativeHardTail (fun _ _ => ?_) fun _ => trivial
  refine ends_loadLockedAccount (fun account hAccount => ?_) trivial fun _ => trivial
  split
  · exact advance_unchanged
  · next existing hExisting =>
    simp only [ends_rules, ends_ite, vacuous]
    refine ⟨fun _ => advance_unchanged, fun hOpen staleNotBefore _ =>
      ⟨fun _ => advance_unchanged, fun _ sessionId hSession owner hOwner =>
        ⟨fun _ => advance_unchanged, fun hDead => ?_⟩⟩⟩
    simp only [not_or, not_not] at hOpen hDead
    obtain ⟨hKey, hStatus⟩ := hOpen
    have hNotLive : sys.db.ownerLive existing now = false := by
      simp [Db.ownerLive, hSession, hOwner, hDead.2]
    split
    · next hPrepared =>
      exact recoverPrepared_advances hAccount hExisting hKey hStatus hPrepared hNotLive
    · next hDispatching =>
      rw [ends_bind]
      exact markUnresolved_advances hAccount hExisting hKey (.inl hStatus) rfl
        fun _ hStatus' hDispatch => .fenced rfl hStatus hDispatching hNotLive hStatus' hDispatch
    · trivial

/-! ## Checkpoints and account issues -/

theorem recordCheckpointIssue_moves {checkpointRevision : Nat} {derivedUsed : Usd}
    (hAccount : sys.db.virtualKeys.lookup key = some account) :
    Moves libs sys .account (recordCheckpointIssue libs (account.intoSnapshot key) checkpointRevision
      derivedUsed issueId now) := by
  simp only [Moves, recordCheckpointIssue, ends_rules, ends_ite, ends_insertLedger, vacuous]
  refine ⟨fun _ => move_unchanged, fun _ newRevision hRevision hFresh hAccepted => ?_⟩
  obtain rfl := checkedNextRevision_eq hRevision
  refine commits_updateFound hAccount ?_
  rintro hCond _ ⟨rfl⟩
  exact .flagged ⟨hAccount, rfl, rfl, rfl⟩
    ⟨hFresh, rfl, rfl, rfl, satisfiesChecks_of_accepts hAccepted⟩ rfl rfl rfl rfl rfl

theorem checkpointTail_moves {command : CheckpointBudgetAccount}
    {latestRevision : Nat} {latest : CheckpointRow}
    (hAccount : sys.db.virtualKeys.lookup command.virtualKeyId = some account) :
    Moves libs sys .account (checkpointTail libs command (account.intoSnapshot command.virtualKeyId)
      latestRevision latest issueId now) := by
  simp only [Moves, checkpointTail, ends_rules, ends_sql, ends_ite, ends_insertCheckpoint, vacuous]
  intro sum _ _ settledCost _ derivedUsed _
  refine ⟨fun _ => recordCheckpointIssue_moves hAccount, fun hEqual hAccepted => ?_⟩
  refine commits_updateFound hAccount ?_
  rintro hCond _ ⟨rfl⟩
  exact .checkpointed hAccount (lookup_of_acceptsCheckpoint hAccepted) (not_not.mp hEqual) rfl

theorem checkpointAccount_moves {command : CheckpointBudgetAccount} :
    Moves libs sys .account (checkpointAccount libs store command issueId now) := by
  simp only [Moves, checkpointAccount, ends_rules, vacuous]
  intro _ _
  refine ends_beginWrite ?_ fun _ => trivial
  refine ends_loadAuthoritativeHardTail (fun _ _ => ?_) fun _ => trivial
  refine ends_loadLockedAccount (fun account hAccount => ?_) trivial fun _ => trivial
  split
  · simp only [ends_rules, vacuous]
    exact fun _ => move_unchanged
  · simp only [ends_rules, ends_ite, vacuous]
    exact fun _ latest _ _ => ⟨fun _ _ => move_unchanged, fun _ => checkpointTail_moves hAccount⟩

theorem recordAccountIssue_moves {reason : String} :
    Moves libs sys .account (recordAccountIssue libs store virtualKeyId scope reason issueId now) := by
  simp only [Moves, recordAccountIssue, ends_rules, ends_ite, ends_insertLedger, vacuous]
  refine ends_beginWrite ?_ fun _ => trivial
  refine ends_lockScopedAccount (fun account hAccount => ?_) trivial fun _ => trivial
  refine ⟨fun _ => move_unchanged, fun _ newRevision hRevision _ _ hFresh hAccepted => ?_⟩
  obtain rfl := nextAdminRevision_eq hRevision
  refine commits_updateFound hAccount ?_
  rintro hCond _ ⟨rfl⟩
  exact .flagged ⟨hAccount, rfl, rfl, rfl⟩
    ⟨hFresh, rfl, rfl, rfl, satisfiesChecks_of_accepts hAccepted⟩ rfl rfl rfl rfl rfl

/-! ## Reconciliation -/

section

variable {childId : Uuid} {parent : LedgerRow} {command : NormalizedReconciliation}
  (hAccount : sys.db.virtualKeys.lookup command.virtualKeyId = some account)
  (hParent : sys.db.ledger.lookup command.intentId = some parent)
  (hKey : parent.virtualKeyId = command.virtualKeyId)
  (hStatus : parent.status = .pending ∨ parent.status = .unresolved)
  (hSubject : call.subject = .intent command.intentId)
  (hTurn : ∀ row' : LedgerRow, row'.status = .resolved ∨ row'.status = .unresolved →
    row'.dispatchState = parent.dispatchState → Turn sys.db command.intentId parent call row')
include hAccount hParent hKey hStatus hSubject hTurn

theorem reconcileApplied_advances (hKind : parent.kind = .request) :
    Advances libs sys call (reconcileApplied libs
      (account.intoSnapshot command.virtualKeyId) parent command childId now) := by
  simp only [Advances, reconcileApplied, ends_rules, ends_insertLedger, vacuous]
  intro newRevision hRevision
  obtain rfl := nextAdminRevision_eq hRevision
  refine ends_ensureCounted ?_ fun _ => trivial
  refine commits_updateFound hAccount fun hCond row' hChange => ?_
  obtain ⟨used, hUsed, rfl⟩ := Option.map_eq_some_iff.mp hChange
  intro hFresh hAccepted
  refine commits_updateLedger fun row hRow' hCond' hAccepted' => ?_
  intro _ _ _ _ _ _
  -- the new row is not the parent, so the parent is still what was read
  have hNe : command.intentId ≠ childId := by
    rintro hEq
    rw [hEq] at hParent
    exact absurd (hParent.symm.trans hFresh) (by simp)
  rw [AList.lookup_insert_ne hNe] at hRow'
  obtain rfl : parent = row := Option.mem_unique hParent hRow'
  simp only [Bool.and_eq_true, decide_eq_true_eq] at hCond
  have hRewrites := rewrites_of_accepts account hParent hKey hStatus hAccepted'
    ⟨rfl, rfl, rfl, rfl, rfl, rfl⟩
  rw [hSubject]
  refine ⟨.reconciled ⟨hAccount, rfl, rfl, wsId_releaseCount ..⟩ hRewrites
      ⟨hFresh, rfl, rfl, rfl, satisfiesChecks_of_accepts hAccepted⟩ rfl hKind rfl rfl ?_ rfl
      ⟨hCond.1.1, rfl, rfl⟩ (units_of_add hUsed),
    .append_rewrite hNe hParent (hTurn _ (.inl rfl) rfl) hFresh
      (.other (by simp [reconciliationRow]))⟩
  unfold reconciliationRow
  cases command.resolution with
  | settle amount => exact .inl rfl
  | waive => exact .inr ⟨rfl, rfl⟩

theorem applyReconciliationOverflow_advances {attemptId : Uuid} :
    Advances libs sys call (applyReconciliationOverflow libs
      (account.intoSnapshot command.virtualKeyId) parent command amount attemptId now) := by
  simp only [Advances, applyReconciliationOverflow, ends_rules, ends_insertLedger, vacuous]
  intro newRevision hRevision
  obtain rfl := nextAdminRevision_eq hRevision
  refine ends_ensureCounted ?_ fun _ => trivial
  refine commits_updateFound hAccount ?_
  rintro hCond _ ⟨rfl⟩
  refine commits_updateLedger fun row hRow' hCond' hAccepted => ?_
  obtain rfl : parent = row := Option.mem_unique hParent hRow'
  intro hFresh hAccepted' _ _ _ _ _ _
  have hNe : attemptId ≠ command.intentId := by
    rintro rfl
    simp at hFresh
  rw [AList.lookup_insert_ne hNe] at hFresh
  simp only [Bool.and_eq_true, decide_eq_true_eq] at hCond
  have hRewrites := rewrites_of_accepts account hParent hKey hStatus hAccepted
    ⟨rfl, rfl, rfl, rfl, rfl, rfl⟩
  rw [hSubject]
  refine ⟨.attempted ⟨hAccount, rfl, rfl, wsId_suspendCount ..⟩ hRewrites
      ⟨hFresh, rfl, rfl, rfl, satisfiesChecks_of_accepts hAccepted'⟩ rfl rfl rfl
      ⟨hCond.1, rfl, rfl, ?_⟩,
    .rewrite_append hParent (hTurn _ (.inr rfl) rfl) hFresh (.other (by simp [attemptRow]))⟩
  unfold suspendCount
  split <;> rfl

end

theorem normalizeReconciliation_intent {command : ReconcileBudgetIntent}
    {normalized : NormalizedReconciliation}
    (h : normalizeReconciliation libs command = .ok normalized) :
    normalized.intentId = command.intentId := by
  simp only [normalizeReconciliation, bind, Except.bind] at h
  repeat' split at h
  all_goals first
    | cases h; rfl
    | cases h

theorem validateReconciliationParent_key {account : BudgetAccountSnapshot}
    (h : validateReconciliationParent parent account scope = .ok ()) :
    parent.kind = .request ∧ parent.virtualKeyId = account.virtualKeyId := by
  unfold validateReconciliationParent at h
  split at h
  · cases h
  · next hParent =>
    simp only [not_or, not_not] at hParent
    exact ⟨hParent.1, hParent.2.1⟩

theorem ends_ownerIsStillLive {post : Bool → Db → Prop}
    (hPost : ∀ sessionId, parent.ownerSessionId = some sessionId →
      post ((db.ownerSessions.lookup sessionId).any (·.live now)) db) :
    Ends (ownerIsStillLive parent now) db post fun _ => True := by
  simp only [ownerIsStillLive, ends_rules, vacuous]
  exact hPost

theorem reconcile_advances {command : ReconcileBudgetIntent} :
    Advances libs sys (.reconcile store command childId now)
      (reconcile libs store command childId now) := by
  simp only [Advances, reconcile, ends_rules, ends_lockIntentById, ends_loadLedgerByOperation,
    vacuous]
  intro normalized hNormalized
  have hIntent := normalizeReconciliation_intent hNormalized
  refine ends_beginWrite ?_ fun _ => trivial
  refine ends_lockScopedAccount (fun account hAccount => ?_) trivial fun _ => trivial
  intro parent hParent _ hValid
  obtain ⟨hKind, hKey⟩ := validateReconciliationParent_key hValid
  split
  · simp only [ends_rules, vacuous]
    exact fun _ _ _ _ _ _ => advance_unchanged
  · simp only [ends_rules, vacuous]
    intro _ hStatus
    have hSubject : (Call.reconcile store command childId now).subject =
        .intent normalized.intentId := congrArg Subject.intent hIntent.symm
    have hTurn : (parent.status = .pending → sys.db.ownerLive parent now = false) →
        ∀ row' : LedgerRow, row'.status = .resolved ∨ row'.status = .unresolved →
          row'.dispatchState = parent.dispatchState →
          Turn sys.db normalized.intentId parent (.reconcile store command childId now) row' :=
      fun hOwner row' hStatus' hDispatch =>
        .reconciled hIntent.symm (isOpen_iff.mpr hStatus) hOwner hStatus' hDispatch
    rw [ends_ite]
    refine ⟨fun _ => ?_, fun hSettled => ?_⟩
    · simp only [ends_rules, vacuous]
      refine ends_ownerIsStillLive fun sessionId hSession hDead => ?_
      have hOwner : sys.db.ownerLive parent now = false := by
        simpa [Db.ownerLive, hSession] using hDead
      split
      · exact applyReconciliationOverflow_advances hAccount hParent hKey hStatus hSubject
          (hTurn fun _ => hOwner)
      · exact reconcileApplied_advances hAccount hParent hKey hStatus hSubject
          (hTurn fun _ => hOwner) hKind
    · have hTurn' := hTurn fun hPending => absurd hPending hSettled
      split
      · exact applyReconciliationOverflow_advances hAccount hParent hKey hStatus hSubject hTurn'
      · exact reconcileApplied_advances hAccount hParent hKey hStatus hSubject hTurn' hKind

/-! ## Rebuilds -/

theorem rebuildApplied_moves (hScan : rebuild ∈ sys.rebuilds)
    (hAccount : sys.db.virtualKeys.lookup rebuild.command.virtualKeyId = some account)
    (hCurrent : account.budgetAccountingRevision = rebuild.scan.account.accountingRevision) :
    Moves libs sys .account (rebuildApplied libs rebuild.command rebuild.scan
      (account.intoSnapshot rebuild.command.virtualKeyId) auditId now) := by
  simp only [Moves, rebuildApplied, ends_rules, ends_insertLedger, ends_insertCheckpoint, vacuous]
  intro _ _ newRevision hRevision hFresh hAccepted
  obtain rfl := nextAdminRevision_eq hRevision
  refine ends_updateLedgerWhere (fun hAccepts hCount hCheckpoint => ?_) fun _ _ _ _ _ _ => trivial
  refine commits_updateFound hAccount ?_
  rintro hCond _ ⟨rfl⟩ _ _ _ _
  -- the audit row itself is no account issue
  rw [Table.total_insert hFresh] at hCount
  simp only [← hCurrent] at hCount hAccepts ⊢
  refine .rebuilt hScan hAccount hCurrent.symm
    ⟨hFresh, rfl, rfl, rfl, satisfiesChecks_of_accepts hAccepted⟩ rfl rfl ?_ ?_
    (lookup_of_acceptsCheckpoint hCheckpoint) rfl rfl rfl rfl rfl rfl rfl
  · simpa [closesIssue, rebuildAuditRow] using hCount
  · intro id issue hIssue hCloses
    refine satisfiesChecks_of_accepts (hAccepts id issue ?_ hCloses)
    rw [AList.lookup_insert_ne]
    · exact hIssue
    · rintro rfl
      exact absurd (hIssue.symm.trans hFresh) (by simp)

theorem applyRebuildSnapshot_moves (hScan : rebuild ∈ sys.rebuilds) : Moves libs sys .account
      (applyRebuildSnapshot libs store rebuild.command rebuild.scan auditId now) := by
  simp only [Moves, applyRebuildSnapshot, ends_rules, ends_loadLedgerByOperation]
  refine ends_beginWrite ?_ fun _ => trivial
  refine ends_lockScopedAccount (fun account hAccount => ?_) trivial fun _ => trivial
  split
  · simp only [ends_rules, vacuous]
    exact fun _ _ _ => move_unchanged
  · simp only [ends_rules, ends_ite, vacuous]
    exact ⟨fun _ => move_unchanged, fun hCurrent _ =>
      rebuildApplied_moves hScan hAccount (not_not.mp hCurrent)⟩

/-! ## Governance -/

theorem createAccount_moves {command : CreateBudgetAccount} :
    Moves libs sys .account (createAccount store command now) := by
  simp only [Moves, createAccount, ends_rules, ends_putAccount, ends_insertCheckpoint, vacuous]
  intro _ _ budgetLimit _
  refine ends_beginWrite ?_ fun _ => trivial
  intro hFresh _ hCheckpoint _ _
  exact .created hFresh (lookup_of_acceptsCheckpoint hCheckpoint) rfl rfl rfl rfl rfl rfl

theorem updateAccount_moves {command : UpdateBudgetAccount} :
    Moves libs sys .account (updateAccount store command now) := by
  simp only [Moves, updateAccount, ends_rules, ends_ite, vacuous]
  intro normalized _
  refine ends_beginWrite ?_ fun _ => trivial
  refine ends_lockScopedAccount (fun account hAccount => ?_) trivial fun _ => trivial
  refine ⟨fun _ => move_unchanged, fun _ _ newRevision hRevision => ?_⟩
  obtain rfl := checkedAddI64_eq hRevision
  refine commits_updateFound hAccount ?_
  rintro hCond _ ⟨rfl⟩
  exact fun _ _ => .edited ⟨hAccount, rfl, rfl, rfl⟩ rfl rfl rfl

theorem deleteAccount_moves {command : DeleteBudgetAccount} :
    Moves libs sys .account (deleteAccount store command now) := by
  simp only [Moves, deleteAccount, ends_rules, vacuous]
  refine ends_beginWrite ?_ fun _ => trivial
  refine ends_lockScopedAccount (fun account hAccount => ?_) trivial fun _ => trivial
  exact fun hClean => .deleted hAccount hClean.1 hClean.2

/-! ## Owner sessions -/

def Quiet (db db' : Db) : Prop :=
  db'.virtualKeys = db.virtualKeys ∧ db'.ledger = db.ledger ∧ db'.checkpoints = db.checkpoints

section

variable (hPost : ∀ db', Quiet db db' → post () db')
include hPost

theorem ends_putSettings {deploymentNamespace : String} {row : RuntimeSettingsRow} :
    Ends (putSettings deploymentNamespace row) db post fun _ => True := by
  simp only [putSettings, ends_rules, ends_accept, vacuous]
  exact fun _ => hPost _ ⟨rfl, rfl, rfl⟩

theorem ends_putOwner {sessionId : Uuid} {row : OwnerRow} :
    Ends (putOwner sessionId row) db post fun _ => True := by
  simp only [putOwner, ends_rules, ends_accept, vacuous]
  exact fun _ => hPost _ ⟨rfl, rfl, rfl⟩

theorem ends_adoptSettings :
    Ends (adoptSettings store now) db post fun _ => True := by
  simp only [adoptSettings, ends_rules]
  split
  · exact ends_putSettings hPost
  · simp only [ends_ite, ends_rules, vacuous]
    exact ⟨fun _ _ => ends_putSettings hPost, fun _ => hPost db ⟨rfl, rfl, rfl⟩⟩

end

theorem move_of_quiet (h : Quiet sys.db db') : Move libs sys .owner db' :=
  .quiet h.1 h.2.1 h.2.2 fun hOther => absurd rfl hOther

theorem registerOwner_moves {command : BudgetOwnerCommand} :
    Moves libs sys .owner (registerOwner store command now) := by
  simp only [Moves, registerOwner, ends_rules, vacuous]
  intro _ _
  refine ends_beginWrite ?_ fun _ => trivial
  refine ends_adoptSettings fun db' hQuiet => ?_
  split
  · simp only [ends_rules, vacuous]
    exact fun _ _ => move_of_quiet hQuiet
  · simp only [ends_rules]
    refine ends_putOwner fun db'' hQuiet' => move_of_quiet ⟨?_, ?_, ?_⟩
    · exact hQuiet'.1.trans hQuiet.1
    · exact hQuiet'.2.1.trans hQuiet.2.1
    · exact hQuiet'.2.2.trans hQuiet.2.2

theorem heartbeatOwner_moves {command : BudgetOwnerCommand} :
    Moves libs sys .owner (heartbeatOwner store command now) := by
  simp only [Moves, heartbeatOwner, ends_rules, vacuous]
  intro _ _
  refine ends_beginWrite ?_ fun _ => trivial
  refine ends_loadAuthoritativeHardTail (fun _ _ => ?_) fun _ => trivial
  exact fun _ _ => ends_putOwner fun db' hQuiet => move_of_quiet hQuiet

theorem stopOwner_moves {command : StopBudgetOwner} :
    Moves libs sys .owner (stopOwner store command now) := by
  simp only [Moves, stopOwner, ends_rules]
  refine ends_beginWrite ?_ fun _ => trivial
  split
  · exact ends_putOwner fun db' hQuiet => move_of_quiet hQuiet
  · simp only [ends_rules, vacuous]
    exact fun _ _ _ _ => move_unchanged

/-! ## Calls -/

theorem move_of_moves {α : Type} {t : Tx α} (h : Moves libs sys subject t) :
    Move libs sys subject (sys.run t).db := by
  unfold System.run
  obtain ⟨_, db', hRun, hMove⟩ | ⟨_, hRun, _⟩ := execute_of_ends h
  · rw [hRun]
    exact hMove
  · rw [hRun]
    exact move_unchanged

theorem advance_of_advances {α : Type} {t : Tx α} (h : Advances libs sys call t) :
    Move libs sys call.subject (sys.run t).db ∧ Turns sys.db call (sys.run t).db.ledger := by
  unfold System.run
  obtain ⟨_, db', hRun, hAdvance⟩ | ⟨_, hRun, _⟩ := execute_of_ends h
  · rw [hRun]
    exact hAdvance
  · rw [hRun]
    exact advance_unchanged

/-- **Every call is a move**: one transaction changes accounts, ledger and checkpoints as one of
the moves of the subject it works on. -/
theorem perform_move (call : Call) : Move libs sys call.subject (perform libs sys call).db := by
  cases call with
  | createIntent store command now => exact (advance_of_advances createIntent_advances).1
  | markDispatching store command now => exact (advance_of_advances markDispatching_advances).1
  | settle store command now => exact (advance_of_advances settle_advances).1
  | recoverStale store candidate now => exact (advance_of_advances recoverStaleCandidate_advances).1
  | checkpointAccount store command issueId now => exact move_of_moves checkpointAccount_moves
  | recordAccountIssue store virtualKeyId scope reason issueId now =>
    exact move_of_moves recordAccountIssue_moves
  | reconcile store command childId now => exact (advance_of_advances reconcile_advances).1
  | scanRebuild store command =>
    have hDb : (sys.scan libs store command).db = sys.db := by
      unfold System.scan
      repeat' split
      all_goals rfl
    change Move libs sys .account (sys.scan libs store command).db
    rw [hDb]
    exact move_unchanged
  | applyRebuild store index auditId now =>
    change Move libs sys .account (sys.applyRebuild libs store index auditId now).db
    unfold System.applyRebuild
    split
    · exact move_unchanged
    · next rebuild hRebuild =>
      exact move_of_moves (applyRebuildSnapshot_moves (List.mem_of_getElem? hRebuild))
  | createAccount store command now => exact move_of_moves createAccount_moves
  | updateAccount store command now => exact move_of_moves updateAccount_moves
  | deleteAccount store command now => exact move_of_moves deleteAccount_moves
  | registerOwner store command now => exact move_of_moves registerOwner_moves
  | heartbeatOwner store command now => exact move_of_moves heartbeatOwner_moves
  | stopOwner store command now => exact move_of_moves stopOwner_moves

end KongRust.Budget
