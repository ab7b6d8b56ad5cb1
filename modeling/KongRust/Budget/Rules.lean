import KongRust.Budget.Admin

/-!
# Rules for the statements

One `Ends` rule for each statement and each read of the budget store, so that a transaction is
followed statement by statement and no later proof unfolds one.
-/

namespace KongRust.Budget

open Transaction

variable {libs : External} {store : PgBudgetStore} {db : Db} {fail : BudgetStoreError → Prop}

theorem ends_sql {α : Type} {x : Except SqlxError α} {post : α → Db → Prop} :
    Ends (sql x) db post fail ↔
      (∀ a, x = .ok a → post a db) ∧ ∀ e, x = .error e → fail (mapSqlxError e) := by
  cases x <;> simp [sql, Except.mapError, ends_lift]

variable {post : Unit → Db → Prop} {id : Uuid} {row : LedgerRow} {cond : LedgerRow → Bool}
  {change : LedgerRow → LedgerRow}

theorem ends_accept {x : Except SqlxError Unit} : Ends (sql x) db post fail ↔
      (x = .ok () → post () db) ∧ ∀ e, x = .error e → fail (mapSqlxError e) := by
  rw [ends_sql]
  exact and_congr_left fun _ => ⟨fun h => h (), fun h _ => h⟩

/-! ## The ledger -/

theorem ends_putLedger : Ends (putLedger libs id row) db post fail ↔
      (db.acceptsLedger libs id row = .ok () →
        post () { db with ledger := db.ledger.insert id row }) ∧
      ∀ e, db.acceptsLedger libs id row = .error e → fail (mapSqlxError e) := by
  simp only [putLedger, ends_bind, ends_get, ends_accept, ends_set]

theorem ends_insertLedger : Ends (insertLedger libs id row) db post fail ↔
      (db.ledger.lookup id = none → (db.acceptsLedger libs id row = .ok () →
          post () { db with ledger := db.ledger.insert id row }) ∧
        ∀ e, db.acceptsLedger libs id row = .error e → fail (mapSqlxError e)) ∧
      (db.ledger.lookup id ≠ none → fail (mapSqlxError .uniqueViolation)) := by
  simp only [insertLedger, ends_bind, ends_get, ends_ensure, ends_putLedger, ne_eq]

theorem ends_updateLedger {post : Option LedgerRow → Db → Prop}
    (hChanged : ∀ row, db.ledger.lookup id = some row → cond row →
      db.acceptsLedger libs id (change row) = .ok () →
      post (some (change row)) { db with ledger := db.ledger.insert id (change row) })
    (hNone : post none db)
    (hFail : ∀ row e, db.ledger.lookup id = some row → cond row →
      db.acceptsLedger libs id (change row) = .error e → fail (mapSqlxError e)) :
    Ends (updateLedger libs id cond change) db post fail := by
  simp only [updateLedger, ends_bind, ends_get]
  split
  · exact hNone
  · next row hRow =>
    obtain ⟨hFound, hCond⟩ := Option.filter_eq_some_iff.mp hRow
    simp only [ends_bind, ends_putLedger, ends_pure]
    exact ⟨fun hAccepted => hChanged row hFound hCond hAccepted,
      fun e hError => hFail row e hFound hCond hError⟩

theorem commits_updateLedger {post : LedgerRow → Db → Prop}
    (hChanged : ∀ row, db.ledger.lookup id = some row → cond row →
      db.acceptsLedger libs id (change row) = .ok () →
      post (change row) { db with ledger := db.ledger.insert id (change row) }) :
    Ends (updateLedger libs id cond change) db
      (fun updated db' => ∀ row', updated = some row' → post row' db') fun _ => True := by
  refine ends_updateLedger (fun row hRow hCond hAccepted => ?_) ?_ fun _ _ _ _ _ => trivial
  · rintro _ ⟨rfl⟩
    exact hChanged row hRow hCond hAccepted
  · rintro _ ⟨⟩

theorem ends_updateLedgerWhere {post : Nat → Db → Prop}
    (hChanged : (∀ id row, db.ledger.lookup id = some row → cond row →
        { db with ledger := Table.update cond change db.ledger }.acceptsLedger libs id
          (change row) = .ok ()) →
      post (Table.total (fun row => if cond row then 1 else 0) db.ledger)
        { db with ledger := Table.update cond change db.ledger })
    (hFail : ∀ id row e, db.ledger.lookup id = some row → cond row →
      { db with ledger := Table.update cond change db.ledger }.acceptsLedger libs id
        (change row) = .error e → fail (mapSqlxError e)) :
    Ends (updateLedgerWhere libs cond change) db post fail := by
  simp only [updateLedgerWhere, ends_bind, ends_get, ends_accept, ends_set, ends_pure]
  refine ⟨fun hAccepted => hChanged fun id row hRow hCond => ?_, fun e hError => ?_⟩
  · have hEntry := forM_eq_ok.mp hAccepted _ (Table.lookup_eq_some_iff.mp hRow)
    rwa [if_pos hCond] at hEntry
  · obtain ⟨entry, hEntry, hError⟩ := exists_of_forM_eq_error hError
    split at hError
    · next hCond =>
      exact hFail entry.1 entry.2 e (Table.lookup_eq_some_iff.mpr hEntry) hCond hError
    · cases hError

theorem ends_insertIntent {post : Bool → Db → Prop}
    (hInserted : db.ledger.lookup id = none → db.acceptsLedger libs id row = .ok () →
      post true { db with ledger := db.ledger.insert id row })
    (hConflict : post false db)
    (hFail : ∀ e, e = .uniqueViolation ∨ db.acceptsLedger libs id row = .error e →
      fail (mapSqlxError e)) :
    Ends (insertIntent libs id row) db post fail := by
  simp only [insertIntent, ends_bind, ends_get, ends_ite, ends_pure, ends_insertLedger]
  exact ⟨fun _ => hConflict, fun _ => ⟨fun hFresh => ⟨hInserted hFresh,
    fun e hError => hFail e (.inr hError)⟩, fun _ => hFail _ (.inl rfl)⟩⟩

theorem satisfiesChecks_of_accepts
    (h : db.acceptsLedger libs id row = .ok ()) : row.satisfiesChecks libs := by
  unfold Db.acceptsLedger at h
  split at h
  · cases h
  split at h
  · cases h
  split at h
  · cases h
  · next hChecks => simpa using hChecks

variable {id' : Uuid} {other : LedgerRow} {requestId : String} {key : Uuid × Nat}
  {scope : BudgetAdminScope}

theorem unique_of_accepts (h : db.acceptsLedger libs id row = .ok ())
    (hOther : db.ledger.lookup id' = some other) (hId : id' ≠ id) : row.clashes other = false := by
  unfold Db.acceptsLedger at h
  split at h
  · cases h
  split at h
  · cases h
  split at h
  · cases h
  split at h
  · cases h
  · next hUnique =>
    by_contra hClash
    refine hUnique (List.any_eq_true.mpr ⟨_, Table.lookup_eq_some_iff.mp hOther, ?_⟩)
    simp only [Bool.not_eq_false] at hClash
    simp [hId, hClash]

theorem requestId_of_accepts (h : db.acceptsLedger libs id row = .ok ())
    (hOther : db.ledger.lookup id' = some other) (hId : id' ≠ id)
    (hRequest : row.requestId = some requestId) : other.requestId ≠ some requestId := by
  intro hSame
  have hClash := unique_of_accepts h hOther hId
  simp [LedgerRow.clashes, hRequest, hSame] at hClash

theorem kindStatusValid_of_checks (h : row.satisfiesChecks libs) :
    row.kindStatusValid := by
  simp only [LedgerRow.satisfiesChecks, Bool.and_eq_true] at h
  tauto

/-! ## The accounts -/

theorem ends_lockAccount {post : Option AccountRow → Db → Prop} :
    Ends (lockAccount id) db post fail ↔ post (db.virtualKeys.lookup id) db := Iff.rfl

theorem ends_putAccount {row : AccountRow} : Ends (putAccount id row) db post fail ↔
      (db.acceptsAccount id row = .ok () →
        post () { db with virtualKeys := db.virtualKeys.insert id row }) ∧
      ∀ e, db.acceptsAccount id row = .error e → fail (mapSqlxError e) := by
  simp only [putAccount, ends_bind, ends_get, ends_accept, ends_set]

theorem ends_updateAccountRow {cond : AccountRow → Bool}
    {change : AccountRow → Option AccountRow} {post : Option AccountRow → Db → Prop}
    (hChanged : ∀ row row', db.virtualKeys.lookup id = some row → cond row →
      change row = some row' →
      post (some row') { db with virtualKeys := db.virtualKeys.insert id row' })
    (hNone : post none db)
    (hFail : ∀ e, (e = .numericValueOutOfRange ∨ ∃ row row', db.virtualKeys.lookup id = some row ∧
      change row = some row' ∧ db.acceptsAccount id row' = .error e) → fail (mapSqlxError e)) :
    Ends (updateAccountRow id cond change) db post fail := by
  simp only [updateAccountRow, ends_bind, ends_get]
  split
  · exact hNone
  · next row hRow =>
    obtain ⟨hFound, hCond⟩ := Option.filter_eq_some_iff.mp hRow
    simp only [ends_bind, ends_okOr, ends_putAccount, ends_pure]
    refine ⟨fun row' hRow' => ⟨fun _ => hChanged row row' hFound hCond hRow', fun e hError => ?_⟩,
      fun _ => hFail _ (.inl rfl)⟩
    exact hFail e (.inr ⟨row, row', hFound, hRow', hError⟩)

theorem commits_updateAccountRow {cond : AccountRow → Bool}
    {change : AccountRow → Option AccountRow} {post : AccountRow → Db → Prop}
    (hChanged : ∀ row row', db.virtualKeys.lookup id = some row → cond row →
      change row = some row' →
      post row' { db with virtualKeys := db.virtualKeys.insert id row' }) :
    Ends (updateAccountRow id cond change) db
      (fun updated db' => ∀ row', updated = some row' → post row' db') fun _ => True := by
  refine ends_updateAccountRow (fun row row' hRow hCond hChange => ?_) ?_ fun _ _ => trivial
  · rintro _ ⟨rfl⟩
    exact hChanged row row' hRow hCond hChange
  · rintro _ ⟨⟩

theorem commits_updateFound {cond : AccountRow → Bool} {change : AccountRow → Option AccountRow}
    {post : AccountRow → Db → Prop} {account : AccountRow}
    (hAccount : db.virtualKeys.lookup id = some account)
    (hChanged : cond account → ∀ row', change account = some row' →
      post row' { db with virtualKeys := db.virtualKeys.insert id row' }) :
    Ends (updateAccountRow id cond change) db
      (fun updated db' => ∀ row', updated = some row' → post row' db') fun _ => True :=
  commits_updateAccountRow fun row row' hRow => by
    obtain rfl : account = row := Option.mem_unique hAccount hRow
    exact fun hCond hChange => hChanged hCond row' hChange

theorem ends_insertCheckpoint {row : CheckpointRow} : Ends (insertCheckpoint key row) db post fail ↔
      (db.acceptsCheckpoint key row = .ok () →
        post () { db with checkpoints := db.checkpoints.insert key row }) ∧
      ∀ e, db.acceptsCheckpoint key row = .error e → fail (mapSqlxError e) := by
  simp only [insertCheckpoint, ends_bind, ends_get, ends_accept, ends_set]

theorem lookup_of_acceptsCheckpoint {row : CheckpointRow}
    (h : db.acceptsCheckpoint key row = .ok ()) : db.checkpoints.lookup key = none := by
  unfold Db.acceptsCheckpoint at h
  split at h
  · cases h
  split at h
  · cases h
  split at h
  · cases h
  split at h
  · cases h
  · next hUnique =>
    by_contra hFound
    obtain ⟨other, hOther⟩ := Option.ne_none_iff_exists'.mp hFound
    refine hUnique (List.any_eq_true.mpr ⟨_, Table.lookup_eq_some_iff.mp hOther, ?_⟩)
    simp

/-! ## Reads -/

theorem ends_beginWrite (hPost : post () db)
    (hFail : ∀ message, fail (.corrupt message)) : Ends (beginWrite store) db post fail := by
  have hMillis : ∀ (duration : Nat) (e : BudgetStoreError),
      durationAsPgMillis duration = .error e → ∃ message, e = .corrupt message := by
    intro duration e h
    simp only [durationAsPgMillis] at h
    split at h
    · cases h; exact ⟨_, rfl⟩
    split at h
    · cases h; exact ⟨_, rfl⟩
    · cases h
  simp only [beginWrite, ends_bind, ends_lift, ends_pure]
  refine ⟨fun _ _ => ⟨fun _ _ => hPost, fun e hError => ?_⟩, fun e hError => ?_⟩
  · obtain ⟨message, rfl⟩ := hMillis _ _ hError
    exact hFail message
  · obtain ⟨message, rfl⟩ := hMillis _ _ hError
    exact hFail message

theorem validatePositiveDuration_ne_zero {duration : Nat} {field : String}
    (h : validatePositiveDuration duration field = .ok ()) : asMillis duration ≠ 0 := by
  unfold validatePositiveDuration at h
  split at h
  · cases h
  · assumption

theorem PgBudgetStore.timeouts (store : PgBudgetStore) :
    asMillis store.config.statementTimeout ≠ 0 ∧ asMillis store.config.lockTimeout ≠ 0 ∧
      store.config.lockTimeout ≤ store.config.statementTimeout := by
  have hValid := store.valid
  unfold PgBudgetStoreConfig.validate at hValid
  simp only [bind, Except.bind] at hValid
  split at hValid
  · cases hValid
  split at hValid
  · cases hValid
  split at hValid
  · cases hValid
  split at hValid
  · cases hValid
  next hStatement =>
  split at hValid
  · cases hValid
  next hLock =>
  split at hValid
  · cases hValid
  next hOrder =>
  exact ⟨validatePositiveDuration_ne_zero hStatement, validatePositiveDuration_ne_zero hLock,
    not_lt.mp hOrder⟩

theorem ends_beginWrite_of_fits
    (hFits : asMillis store.config.statementTimeout < Machine.WORD) (hPost : post () db) :
    Ends (beginWrite store) db post fail := by
  obtain ⟨hStatement, hLock, hOrder⟩ := store.timeouts
  have hMillis : asMillis store.config.lockTimeout ≤ asMillis store.config.statementTimeout :=
    Nat.div_le_div_right hOrder
  have hFits' : ¬ Machine.WORD ≤ asMillis store.config.statementTimeout := by omega
  have hFitsLock : ¬ Machine.WORD ≤ asMillis store.config.lockTimeout := by omega
  simp only [beginWrite, durationAsPgMillis, hFits', hFitsLock, hStatement, hLock, if_false,
    ends_bind, ends_lift, ends_pure, reduceCtorEq, false_imp_iff, implies_true, and_true]
  exact fun _ _ _ _ => hPost

theorem ends_loadAuthoritativeHardTail {post : Nat → Db → Prop} (hPost : ∀ settings,
      db.runtimeSettings.lookup store.config.deploymentNamespace = some settings →
      post settings.checkpointHardTailEvents db)
    (hFail : ∀ message, fail (.unavailable message)) :
    Ends (loadAuthoritativeHardTail store) db post fail := by
  simp only [loadAuthoritativeHardTail, ends_bind, ends_get, ends_okOr, ends_ensure, ends_pure]
  exact ⟨fun settings hSettings => ⟨fun _ => hPost settings hSettings, fun _ => hFail _⟩,
    fun _ => hFail _⟩

theorem ends_ownerIsLive {sessionId nodeId : Uuid} {now : Nat} {post : Bool → Db → Prop} :
    Ends (ownerIsLive store sessionId nodeId now) db post fail ↔
      post ((db.ownerSessions.lookup sessionId).any fun row =>
        row.deploymentNamespace == store.config.deploymentNamespace && row.nodeId == nodeId &&
          row.live now) db :=
  Iff.rfl

theorem ends_lockIntentById {intentId : Uuid} {post : Option LedgerRow → Db → Prop} :
    Ends (lockIntentById intentId) db post fail ↔ post (db.ledger.lookup intentId) db := Iff.rfl

theorem ends_lockIntentByRequest {post : Option (Uuid × LedgerRow) → Db → Prop} :
    Ends (lockIntentByRequest requestId) db post fail ↔ post (db.intentByRequest requestId) db :=
  Iff.rfl

theorem ends_loadLedgerByOperation {operationId : String}
    {post : Option (Uuid × LedgerRow) → Db → Prop} :
    Ends (loadLedgerByOperation operationId) db post fail ↔
      post (db.ledgerByOperation operationId) db :=
  Iff.rfl

theorem ends_loadLockedAccount {missing : BudgetStoreError}
    {post : BudgetAccountSnapshot → Db → Prop}
    (hPost : ∀ row, db.virtualKeys.lookup id = some row → post (row.intoSnapshot id) db)
    (hMissing : fail missing) (hFail : ∀ message, fail (.corrupt message)) :
    Ends (loadLockedAccount id missing) db post fail := by
  simp only [loadLockedAccount, ends_bind, ends_lockAccount, ends_okOr, ends_lift, ends_pure]
  refine ⟨fun row hRow => ⟨fun _ _ => hPost row hRow, fun e hError => ?_⟩, fun _ => hMissing⟩
  unfold validateAccountInvariants at hError
  split at hError
  · cases hError; exact hFail _
  · cases hError

theorem ends_lockScopedAccount {post : BudgetAccountSnapshot → Db → Prop}
    (hPost : ∀ row, db.virtualKeys.lookup id = some row → post (row.intoSnapshot id) db)
    (hMissing : fail notFound) (hFail : ∀ message, fail (.corrupt message)) :
    Ends (lockScopedAccount id scope) db post fail := by
  simp only [lockScopedAccount, ends_bind, ends_lockAccount, ends_okOr, ends_ensure, ends_lift,
    ends_pure]
  refine ⟨fun row hRow => ⟨fun _ => ⟨fun _ _ => hPost row hRow, fun e hError => ?_⟩,
    fun _ => hMissing⟩, fun _ => hMissing⟩
  unfold validateAccount at hError
  split at hError
  · cases hError; exact hFail _
  · cases hError

theorem ends_lockScopedAccount_of_found {row : AccountRow}
    {post : BudgetAccountSnapshot → Db → Prop} (hFound : db.virtualKeys.lookup id = some row)
    (hScope : scope.contains row.wsId) (hPost : post (row.intoSnapshot id) db) :
    Ends (lockScopedAccount id scope) db post fail := by
  have hState : validateAccount (row.intoSnapshot id) = .ok () := if_neg (not_not.mpr rfl)
  simp only [lockScopedAccount, ends_bind, ends_lockAccount, hFound, ends_okOr, ends_ensure,
    ends_lift, ends_pure, reduceCtorEq, false_imp_iff, and_true]
  rintro _ ⟨rfl⟩
  refine ⟨fun _ => ⟨fun _ _ => hPost, fun e hError => ?_⟩, fun hOut => absurd hScope hOut⟩
  rw [hState] at hError
  cases hError

theorem ends_ensureCounted {status : BudgetLedgerStatus} {account : BudgetAccountSnapshot}
    {pendingMessage unresolvedMessage : String} (hPost : post () db)
    (hFail : ∀ message, fail (.corrupt message)) :
    Ends (ensureCounted status account pendingMessage unresolvedMessage) db post fail := by
  simp only [ensureCounted, ends_ite, ends_ensure]
  exact ⟨fun _ => ⟨fun _ => hPost, fun _ => hFail _⟩, fun _ => ⟨fun _ => hPost, fun _ => hFail _⟩⟩

end KongRust.Budget
