import KongRust.Budget.Lifecycle
import KongRust.Foundation.Fallible

/-!
# What the answers of the store say

A node only learns from the answers of its calls what the ledger holds. This module adds the
lookup of an intent and says what each answer that the node acts on means for the row: a paused
creation wrote nothing, a settlement leaves its row no longer pending, and a lookup reads the row
of the creation it was asked about.
-/

namespace KongRust.Budget

open Transaction

/-! ## The lookup of an intent -/

structure LookupBudgetIntent where
  intentId : Uuid
  virtualKeyId : Uuid
  requestId : String
  operationId : String
  commandFingerprint : String
  pricingFingerprint : String
  nodeId : Uuid
  ownerSessionId : Uuid

def CreateBudgetIntent.lookup (command : CreateBudgetIntent) : LookupBudgetIntent where
  intentId := command.intentId
  virtualKeyId := command.virtualKeyId
  requestId := command.requestId
  operationId := command.operationId
  commandFingerprint := command.commandFingerprint
  pricingFingerprint := command.pricingFingerprint
  nodeId := command.nodeId
  ownerSessionId := command.ownerSessionId

def validateLookupCommand (command : LookupBudgetIntent) : Except BudgetStoreError Unit := do
  validateRequestId command.requestId
  validateOperationId command.operationId ("intent:v1:" ++ command.requestId)
    "intent lookup operation"
  validateFingerprint command.commandFingerprint "intent lookup command fingerprint"
  validateFingerprint command.pricingFingerprint "intent lookup pricing fingerprint"

def verifyLookupIdentity (existingId : Uuid) (existing : LedgerRow)
    (command : LookupBudgetIntent) : Except BudgetStoreError Unit := do
  if existingId ≠ command.intentId then
    throw (.corrupt "intent lookup 的 request ID 与 intent ID 不匹配")
  verifyIntentIdentity existing command.virtualKeyId command.requestId
    (some command.ownerSessionId) (some command.nodeId)
  if existing.operationId ≠ command.operationId ∨
      existing.commandFingerprint.map trimmed ≠ some command.commandFingerprint ∨
      existing.pricingFingerprint.map trimmed ≠ some command.pricingFingerprint then
    throw (.corrupt "intent lookup 的幂等载荷冲突")

def lookupIntent (store : PgBudgetStore) (command : LookupBudgetIntent) :
    Tx (Option BudgetIntentRecord) := do
  lift (validateLookupCommand command)
  beginWrite store
  match ← lockIntentByRequest command.requestId with
  | some (id, existing) =>
    lift (verifyLookupIdentity id existing command)
    let record ← lift (existing.intoRecord id)
    return some record
  | none => return none

def Db.admits (db : Db) (store : PgBudgetStore) (virtualKeyId : Uuid) : Bool :=
  match (execute (inspect store virtualKeyId) db).1 with
  | .ok inspection => inspection.eligibility == .eligible
  | .error _ => false

section Answers

variable {libs : External} {store : PgBudgetStore} {db : Db} {now : Nat}

variable {requestId : String} {create : CreateBudgetIntent}

theorem intentByRequest_eq_none : db.intentByRequest requestId = none ↔
      ∀ id row, db.ledger.lookup id = some row → row.requestId ≠ some requestId := by
  simp only [Db.intentByRequest, Option.map_eq_none_iff, List.find?_eq_none, beq_iff_eq]
  refine ⟨fun h id row hRow => ?_, fun h entry hEntry => ?_⟩
  · exact h _ (Table.lookup_eq_some_iff.mp hRow)
  · exact h entry.1 entry.2 (Table.lookup_eq_some_iff.mpr hEntry)

variable {id : Uuid} {row existing : LedgerRow} {command : CreateBudgetIntent}
  {account : BudgetAccountSnapshot}

theorem lookup_of_intentByRequest (h : db.intentByRequest requestId = some (id, row)) :
    db.ledger.lookup id = some row ∧ row.requestId = some requestId := by
  simp only [Db.intentByRequest, Option.map_eq_some_iff] at h
  obtain ⟨⟨found, row'⟩, hFind, hEntry⟩ := h
  obtain ⟨rfl, rfl⟩ := Prod.mk.inj hEntry
  refine ⟨Table.lookup_eq_some_iff.mpr (List.mem_of_find?_eq_some hFind), ?_⟩
  simpa using List.find?_some hFind

theorem intoRecord_fields {record : BudgetIntentRecord} (h : row.intoRecord id = .ok record) :
    record.id = id ∧ row.intentState = some record.state := by
  unfold LedgerRow.intoRecord at h
  unfold LedgerRow.intentState
  split at h
  all_goals simp only [Fallible.bind_eq_ok, pure, Except.pure, throw, throwThe, MonadExceptOf.throw,
      reduceCtorEq, false_and, exists_false, Except.ok.injEq] at h
  all_goals
    obtain ⟨state, rfl, requestId, -, commandFingerprint, -, pricingFingerprint, -, owner, -,
      node, -, rfl⟩ := h
    simp_all

/-! ## Creating -/

theorem createReplayed_answers {db' : Db} : Ends (createReplayed command id existing account) db'
      (fun intent after => after = db' ∧ intent.disposition ≠ .paused ∧
        ∀ record, intent.record = some record → record.id = command.intentId)
      fun _ => True := by
  simp only [createReplayed, ends_rules, vacuous]
  intro _ hVerified record hRecord
  refine ⟨trivial, by simp, ?_⟩
  rintro _ ⟨rfl⟩
  rw [(intoRecord_fields hRecord).1]
  by_contra hOther
  simp [verifyCreateReplay, hOther, bind, Except.bind, throw, throwThe, MonadExceptOf.throw]
    at hVerified

theorem createEligible_answers {hardTail : Nat} :
    Ends (createEligible libs store command account hardTail now) db
      (fun intent _ => intent.disposition ≠ .paused ∧
        ∀ record, intent.record = some record → record.id = command.intentId)
      fun _ => True := by
  simp only [createEligible, ends_rules, ends_ownerIsLive, vacuous]
  intro _ newRevision _ _ _ _ _
  refine ends_insertIntent (fun _ _ => ?_) ?_ fun _ _ => trivial
  · simp only [if_true, ends_rules, vacuous]
    refine commits_updateAccountRow fun _ _ _ _ _ => ?_
    intro record hRecord
    refine ⟨by simp, ?_⟩
    rintro _ ⟨rfl⟩
    exact (intoRecord_fields hRecord).1
  · simp only [Bool.false_eq_true, if_false, ends_rules, ends_lockIntentByRequest, vacuous]
    intro _ _
    exact ends_weaken createReplayed_answers fun _ _ h => h.2

theorem createIntent_answers : Ends (createIntent libs store command now) db
      (fun intent db' => (intent.disposition = .paused →
          db' = db ∧ db.intentByRequest command.requestId = none) ∧
        ∀ record, intent.record = some record → record.id = command.intentId)
      fun _ => True := by
  simp only [createIntent, ends_rules, vacuous]
  intro _ _ _ _
  refine ends_beginWrite ?_ fun _ => trivial
  refine ends_loadLockedAccount (fun account hAccount => ?_) trivial fun _ => trivial
  rw [ends_lockIntentByRequest]
  split
  · exact ends_weaken createReplayed_answers
      fun _ _ h => ⟨fun hPaused => absurd hPaused h.2.1, h.2.2⟩
  · next hAbsent =>
    simp only [ends_rules, vacuous]
    refine ends_loadAuthoritativeHardTail (fun settings _ => ?_) fun _ => trivial
    intro inspection _
    split
    · exact ⟨fun _ => ⟨rfl, hAbsent⟩, by simp⟩
    · trivial
    · exact ends_weaken createEligible_answers fun _ _ h => ⟨fun hPaused => absurd hPaused h.1, h.2⟩

theorem inspect_refused {virtualKeyId : Uuid} (h : db.admits store virtualKeyId = false) :
    Ends (inspect store virtualKeyId) db
      (fun inspection _ => inspection.eligibility ≠ .eligible) fun _ => True := by
  unfold Db.admits at h
  unfold execute at h
  unfold Ends
  split
  · next hRun =>
    rw [hRun] at h
    simpa using h
  · trivial

theorem createIntent_refused (h : db.admits store command.virtualKeyId = false) :
    Ends (createIntent libs store command now) db (fun _ db' => db' = db) fun _ => True := by
  have hInspect := inspect_refused h
  simp only [inspect, beginWrite, loadAuthoritativeHardTail, ends_rules, ends_lockAccount, vacuous]
    at hInspect
  simp only [createIntent, beginWrite, loadLockedAccount, ends_rules, ends_lockAccount, vacuous]
  intro _ _ _ _ statement hStatement lock hLock row hRow _ _
  rw [ends_lockIntentByRequest]
  split
  · exact ends_weaken createReplayed_answers fun _ _ h => h.1
  · simp only [loadAuthoritativeHardTail, ends_rules, vacuous]
    intro settings hSettings hConfig inspection hInspection
    split
    · rfl
    · trivial
    · next hEligible =>
      -- the inspection would have found the same account eligible
      exact absurd hEligible (hInspect statement hStatement lock hLock settings hSettings hConfig
        row hRow inspection hInspection)

/-! ## Settling -/

theorem terminalDisposition_closed {command : SettleBudgetIntent}
    {disposition : BudgetSettlementDisposition}
    (h : terminalDisposition existing command = .ok disposition) :
    existing.status = .settled ∨ existing.status = .resolved := by
  unfold terminalDisposition at h
  split at h
  · next hStatus => exact .inl hStatus
  · next hStatus => exact .inr hStatus
  · cases h

theorem markUnresolved_answers {existingId : Uuid} {observedCost : Option Usd}
    {reasons : List String} {usageFactId : Option Uuid}
    {terminalCommand : Option (String × String)} :
    Ends (markUnresolved libs account existingId existing observedCost reasons usageFactId
        terminalCommand now) db
      (fun _ db' => ∃ row, db'.ledger.lookup existingId = some row ∧ row.status ≠ .pending)
      fun _ => True := by
  simp only [markUnresolved, ends_rules, vacuous]
  intro newRevision _
  refine ends_ensureCounted ?_ fun _ => trivial
  refine commits_updateAccountRow fun _ _ _ _ _ => ?_
  refine commits_updateLedger fun row hRow _ _ => ?_
  intro _ _
  exact ⟨_, AList.lookup_insert _, by simp⟩

theorem settleOpen_answers {command : SettleBudgetIntent}
    (hExisting : db.ledger.lookup command.intentId = some existing) :
    Ends (settleOpen libs command account existing now) db
      (fun _ db' => ∃ row, db'.ledger.lookup command.intentId = some row ∧
        row.status ≠ .pending) fun _ => True := by
  simp only [settleOpen, ends_rules, ends_ite, vacuous]
  intro _ _ normalizedCost _
  refine ⟨fun _ => ⟨fun hUnresolved _ _ => ⟨existing, hExisting, by simp [hUnresolved]⟩,
    fun _ => markUnresolved_answers⟩, fun _ => ?_⟩
  split
  · rw [ends_bind]
    exact ends_weaken markUnresolved_answers fun _ _ h => h
  · simp only [settleApplied, ends_rules, vacuous]
    intro newRevision _
    refine ends_ensureCounted ?_ fun _ => trivial
    refine commits_updateAccountRow fun _ _ _ _ _ => ?_
    refine commits_updateLedger fun row _ _ _ => ?_
    intro _ _
    exact ⟨_, AList.lookup_insert _, by simp⟩

theorem settle_answers {command : SettleBudgetIntent} : Ends (settle libs store command now) db
      (fun _ db' => ∃ row, db'.ledger.lookup command.intentId = some row ∧
        row.status ≠ .pending) fun _ => True := by
  have hClosed : ∀ {existing : LedgerRow}, existing.status = .settled ∨ existing.status = .resolved →
      existing.status ≠ .pending := by
    rintro existing (hStatus | hStatus) <;> simp [hStatus]
  simp only [settle, ends_rules, vacuous]
  intro _ _
  refine ends_beginWrite ?_ fun _ => trivial
  rw [ends_lockAccount]
  split
  · simp only [settleDeleted, ends_rules, ends_lockIntentById, vacuous]
    intro existing hExisting _ _ disposition hDisposition _ _
    exact ⟨existing, hExisting, hClosed (terminalDisposition_closed hDisposition)⟩
  · simp only [ends_rules, ends_lockIntentById, ends_ite, vacuous]
    intro _ _ existing hExisting _ _
    refine ⟨fun hUnresolved _ _ _ => ⟨existing, hExisting, by simp [hUnresolved.1]⟩,
      fun _ => ⟨fun hTerminal _ _ _ _ => ⟨existing, hExisting, hClosed hTerminal⟩,
        fun _ => settleOpen_answers hExisting⟩⟩

/-! ## Looking up -/

theorem lookupIntent_answers {command : LookupBudgetIntent} : Ends (lookupIntent store command) db
      (fun answer db' => db' = db ∧ (answer = none → db.intentByRequest command.requestId = none) ∧
        ∀ record, answer = some record → record.id = command.intentId ∧
          ∃ row, db.ledger.lookup command.intentId = some row ∧
            row.intentState = some record.state) fun _ => True := by
  simp only [lookupIntent, ends_rules, vacuous]
  intro _ _
  refine ends_beginWrite ?_ fun _ => trivial
  rw [ends_lockIntentByRequest]
  split
  · next id existing hFound =>
    simp only [ends_rules, vacuous]
    intro _ hVerified record hRecord
    have hId : id = command.intentId := by
      by_contra hOther
      simp [verifyLookupIdentity, hOther, bind, Except.bind, throw, throwThe,
        MonadExceptOf.throw] at hVerified
    obtain ⟨hRecordId, hState⟩ := intoRecord_fields hRecord
    refine ⟨trivial, by simp, ?_⟩
    rintro _ ⟨rfl⟩
    exact ⟨hRecordId.trans hId, existing, hId ▸ (lookup_of_intentByRequest hFound).1, hState⟩
  · next hAbsent => exact ⟨rfl, fun _ => hAbsent, by simp⟩

/-! ## Terminal rows -/

def LedgerRow.Terminal (row : LedgerRow) : Prop := row.status = .settled ∨ row.status = .resolved

/-- The row is the one of a creation: a repetition of it is answered with the row. -/
def LedgerRow.Answers (row : LedgerRow) (command : CreateBudgetIntent) : Prop :=
  row.kind = .request ∧ verifyCreateReplay command.intentId row command = .ok ()

/-- What identifies the row of a creation. -/
structure LedgerRow.Identifies (row : LedgerRow) (command : CreateBudgetIntent) : Prop where
  kind : row.kind = .request
  virtualKeyId : row.virtualKeyId = command.virtualKeyId
  requestId : row.requestId = some command.requestId
  ownerSessionId : row.ownerSessionId = some command.ownerSessionId
  nodeId : row.nodeId = some command.nodeId
  operationId : row.operationId = command.operationId
  commandFingerprint : row.commandFingerprint.map trimmed = some command.commandFingerprint
  pricingFingerprint : row.pricingFingerprint.map trimmed = some command.pricingFingerprint

theorem LedgerRow.Answers.identifies
    (h : row.Answers command) : row.Identifies command := by
  obtain ⟨hKind, hVerified⟩ := h
  simp only [verifyCreateReplay, verifyIntentIdentity, ne_eq, not_true_eq_false, if_false, bind,
    Except.bind, pure, Except.pure, throw, throwThe, MonadExceptOf.throw, Option.any_some,
    bne_iff_ne] at hVerified
  split at hVerified
  · cases hVerified
  · next hIdentity =>
    split at hIdentity
    · cases hIdentity
    · next hOwn =>
      split at hVerified
      · cases hVerified
      · next hPayload =>
        simp only [not_or, not_not] at hOwn hPayload
        obtain ⟨hKey, hRequest, hOwner, hNode⟩ := hOwn
        obtain ⟨hOperation, hCommand, hPricing⟩ := hPayload
        exact ⟨hKind, hKey, hRequest, hOwner, hNode, hOperation, hCommand, hPricing⟩

theorem LedgerRow.Identifies.intoRecord
    (h : row.Identifies command) (hTerminal : row.Terminal) (id : Uuid) :
    ∃ record, row.intoRecord id = .ok record ∧ record.state ≠ .prepared ∧
      record.state ≠ .dispatching := by
  obtain ⟨fingerprint, hFingerprint, -⟩ := Option.map_eq_some_iff.mp h.commandFingerprint
  obtain ⟨pricing, hPricing, -⟩ := Option.map_eq_some_iff.mp h.pricingFingerprint
  unfold LedgerRow.intoRecord
  rw [h.requestId, hFingerprint, hPricing, h.ownerSessionId, h.nodeId]
  rcases hTerminal with hStatus | hStatus
  · rw [hStatus]
    exact ⟨_, rfl, by simp, by simp⟩
  · rw [hStatus]
    exact ⟨_, rfl, by simp, by simp⟩

theorem validateAccountInvariants_intoSnapshot {account : AccountRow} :
    validateAccountInvariants (account.intoSnapshot id) = .ok () :=
  if_neg (not_not.mpr rfl)

/-- The store takes a settlement of a terminal row: the row was reconciled, or it was settled by
the same command. -/
def LedgerRow.Accepts (row : LedgerRow) (operationId commandFingerprint : String) : Prop :=
  row.status = .resolved ∨ (row.terminalOperationId = some operationId ∧
    row.terminalCommandFingerprint.map trimmed = some commandFingerprint)

theorem terminalDisposition_iff {command : SettleBudgetIntent} (hTerminal : row.Terminal) :
    (∃ disposition, terminalDisposition row command = .ok disposition) ↔
      row.Accepts command.operationId command.commandFingerprint := by
  unfold terminalDisposition LedgerRow.Accepts sameTerminalCommand
  rcases hTerminal with hStatus | hStatus
  · rw [hStatus]
    simp only [reduceCtorEq, false_or]
    split
    · next hOther =>
      simp only [Bool.and_eq_false_iff, beq_eq_false_iff_ne, ne_eq] at hOther
      simp only [reduceCtorEq, exists_false, false_iff, not_and]
      tauto
    · next hSame =>
      simp only [Bool.not_eq_false, Bool.and_eq_true, beq_iff_eq] at hSame
      simpa using hSame
  · simp [hStatus]

/-- A settlement of a terminal row succeeds exactly when the store takes it. -/
theorem settle_terminal {command : SettleBudgetIntent}
    (hFits : asMillis store.config.statementTimeout < Machine.WORD)
    (hValid : validateSettleCommand command = .ok ())
    (hRow : db.ledger.lookup command.intentId = some row) (hIdentifies : row.Identifies create)
    (hKey : command.virtualKeyId = create.virtualKeyId)
    (hRequest : command.requestId = create.requestId)
    (hPricing : command.pricingFingerprint = create.pricingFingerprint) (hTerminal : row.Terminal) :
    Ends (settle libs store command now) db
      (fun _ _ => row.Accepts command.operationId command.commandFingerprint)
      fun _ => ¬ row.Accepts command.operationId command.commandFingerprint := by
  have hVerified : verifySettleIdentity row command = .ok () := by
    simp [verifySettleIdentity, verifyIntentIdentity, hKey, hRequest, hPricing,
      hIdentifies.virtualKeyId, hIdentifies.requestId, hIdentifies.pricingFingerprint, bind,
      Except.bind, pure, Except.pure]
  obtain ⟨record, hRecord, -⟩ := hIdentifies.intoRecord hTerminal command.intentId
  have hStatus : row.status ≠ .unresolved := by
    rcases hTerminal with hStatus | hStatus <;> simp [hStatus]
  have hDisposes : ∀ disposition, terminalDisposition row command = .ok disposition →
      row.Accepts command.operationId command.commandFingerprint :=
    fun disposition h => (terminalDisposition_iff hTerminal).mp ⟨disposition, h⟩
  have hRefuses : ∀ error, terminalDisposition row command = .error error →
      ¬ row.Accepts command.operationId command.commandFingerprint := by
    intro error hError hAccepts
    obtain ⟨disposition, hOk⟩ := (terminalDisposition_iff hTerminal).mpr hAccepts
    rw [hError] at hOk
    cases hOk
  simp only [settle, ends_bind, ends_lift_ok hValid]
  refine ends_beginWrite_of_fits hFits ?_
  rw [ends_lockAccount]
  split
  · simp only [settleDeleted, ends_bind, ends_lockIntentById, ends_okOr_some hRow,
      ends_lift_ok hVerified, ends_lift_ok hRecord, ends_pure]
    exact ends_lift.mpr ⟨hDisposes, hRefuses⟩
  · simp only [ends_bind, ends_lift_ok validateAccountInvariants_intoSnapshot,
      ends_lockIntentById, ends_okOr_some hRow, ends_lift_ok hVerified]
    have hClosed : row.status = .settled ∨ row.status = .resolved := hTerminal
    rw [if_neg fun hUnresolved => hStatus hUnresolved.1, if_pos hClosed]
    simp only [ends_bind, ends_lift_ok hRecord, ends_pure]
    exact ends_lift.mpr ⟨hDisposes, hRefuses⟩

theorem lookupIntent_terminal (hFits : asMillis store.config.statementTimeout < Machine.WORD)
    (hValid : validateLookupCommand create.lookup = .ok ())
    (hFound : db.intentByRequest create.requestId = some (create.intentId, row))
    (hIdentifies : row.Identifies create) (hTerminal : row.Terminal) :
    Ends (lookupIntent store create.lookup) db
      (fun answer _ => ∃ record, answer = some record ∧ record.state ≠ .prepared ∧
        record.state ≠ .dispatching) fun _ => False := by
  have hVerified : verifyLookupIdentity create.intentId row create.lookup = .ok () := by
    simp [verifyLookupIdentity, verifyIntentIdentity, CreateBudgetIntent.lookup,
      hIdentifies.virtualKeyId, hIdentifies.requestId, hIdentifies.ownerSessionId,
      hIdentifies.nodeId, hIdentifies.operationId, hIdentifies.commandFingerprint,
      hIdentifies.pricingFingerprint, bind, Except.bind, pure, Except.pure]
  obtain ⟨record, hRecord, hState⟩ := hIdentifies.intoRecord hTerminal create.intentId
  have hLookup : db.intentByRequest create.lookup.requestId = some (create.intentId, row) := hFound
  simp only [lookupIntent, ends_bind, ends_lift_ok hValid]
  refine ends_beginWrite_of_fits hFits ?_
  simp only [ends_lockIntentByRequest, hLookup, ends_rules, ends_lift_ok hVerified,
    ends_lift_ok hRecord]
  exact ⟨record, rfl, hState⟩

end Answers

theorem terminal_perform {libs : External} {sys : System} {id : Uuid} {row : LedgerRow}
    (hRow : sys.db.ledger.lookup id = some row) (hTerminal : row.Terminal) (call : Call) :
    (perform libs sys call).db.ledger.lookup id = some row := by
  obtain ⟨row', hRow', hTurn⟩ := (perform_turns libs sys call).old id row hRow
  have hOpen : isOpen row = false := by
    rcases hTerminal with hStatus | hStatus <;> simp [isOpen, hStatus]
  have hStatus : row.status ≠ .pending ∧ row.status ≠ .unresolved := by
    rcases hTerminal with hStatus | hStatus <;> simp [hStatus]
  cases hTurn with
  | kept => exact hRow'
  | dispatched _ hPending => exact absurd hPending hStatus.1
  | settled _ hTurned | suspended _ hTurned => simp [hOpen] at hTurned
  | recovered _ hPending | fenced _ hPending => exact absurd hPending hStatus.1
  | reconciled _ hTurned => simp [hOpen] at hTurned
  | closed _ hUnresolved => exact absurd hUnresolved hStatus.2

/-! ## The pending intents of a session -/

/-- A pending intent that the owner session of a node created. -/
structure LedgerRow.PendingOf (row : LedgerRow) (session : Uuid) : Prop where
  kind : row.kind = .request
  status : row.status = .pending
  owner : row.ownerSessionId = some session

def Db.Pending (db : Db) (session : Uuid) (requestId : String) : Prop :=
  ∃ id row, db.ledger.lookup id = some row ∧ row.PendingOf session ∧
    row.requestId = some requestId

section Pending

variable {libs : External} {sys : System} {session id : Uuid} {row row' : LedgerRow} {call : Call}

theorem Turn.pendingOf {db : Db} (h : Turn db id row call row') (hPending : row'.PendingOf session)
    (hKind : row.kind = .request) : row.PendingOf session := by
  have hStatus' := hPending.status
  cases h with
  | kept => exact hPending
  | dispatched _ hStatus _ _ _ hSession =>
    exact ⟨hKind, hStatus, hSession ▸ hPending.owner⟩
  | settled _ _ _ hOther _ _ | suspended _ _ hOther _ | recovered _ _ _ _ hOther _ _
  | fenced _ _ _ _ hOther _ => simp [hOther] at hStatus'
  | reconciled _ _ _ hOther _ => rcases hOther with hOther | hOther <;> simp [hOther] at hStatus'
  | closed _ _ hOther => simp [hOther] at hStatus'

theorem pendingOf_perform (hRow' : (perform libs sys call).db.ledger.lookup id = some row')
    (hPending : row'.PendingOf session) :
    (∃ row, sys.db.ledger.lookup id = some row ∧ row.PendingOf session ∧
      row.requestId = row'.requestId) ∨
    ∃ store command now, call = .createIntent store command now ∧ id = command.intentId ∧
      row'.requestId = some command.requestId ∧ command.ownerSessionId = session := by
  cases hBefore : sys.db.ledger.lookup id with
  | some row =>
    obtain ⟨found, hFound, hTurn⟩ := (perform_turns libs sys call).old id row hBefore
    obtain rfl : found = row' := Option.mem_unique hFound hRow'
    obtain ⟨evolved, hEvolved, hEvolves⟩ := (perform_ledger libs call).old id row hBefore
    obtain rfl : evolved = found := Option.mem_unique hEvolved hRow'
    have hKind := (kind_kept hBefore hRow').symm.trans hPending.kind
    exact .inl ⟨row, rfl, hTurn.pendingOf hPending hKind, hEvolves.identity.2.1.symm⟩
  | none =>
    cases (perform_turns libs sys call).new id row' hBefore hRow' with
    | intent hIntent _ _ _ _ _ =>
      exact .inr ⟨_, _, _, rfl, hIntent.symm, rfl, Option.some.inj hPending.owner⟩
    | other hKind => exact absurd hPending.kind hKind

end Pending

end KongRust.Budget
