import KongRust.Budget.ExactlyOnce

/-!
# The life of a ledger row

Every call is made of turns. So an intent only moves forward: it is prepared, dispatched, perhaps
unresolved, and at the end settled or resolved, and a closed row never changes again.
-/

namespace KongRust.Budget

open Transaction

/-! ## Calls -/

section Calls

variable {libs : External} {sys : System}

theorem Move.turns {subject : Subject} {db' : Db} (hMove : Move libs sys subject db')
    (hSubject : ∀ id, subject ≠ .intent id) (call : Call) : Turns sys.db call db'.ledger := by
  cases hMove with
  | quiet _ hLedger _ _ => exact hLedger ▸ .unchanged
  | flagged _ hAppends hKind _ _ _ _ =>
    exact Turns.unchanged.append (fun _ => rfl) hAppends.fresh (.other (by simp [hKind]))
  | @rebuilt rebuild auditId account account' audit row now _ _ _ hAppends hKind _ _ _ _ _ _ _ _ _
      _ _ =>
    refine .append (.mk ?_ ?_) (Table.lookup_update_insert (not_closesIssue_audit hKind))
      hAppends.fresh (.other (by simp [hKind]))
    · intro id issue hIssue
      refine ⟨_, by rw [Table.lookup_update, hIssue, Option.map_some], ?_⟩
      split
      · next hCloses =>
        obtain ⟨-, hIssueKind, hStatus, -, -⟩ := closesIssue_iff.mp hCloses
        exact .closed hIssueKind hStatus rfl
      · exact .kept
    · intro id issue hAbsent hIssue
      rw [Table.lookup_update, hAbsent] at hIssue
      cases hIssue
  | checkpointed _ _ _ _ | edited _ _ _ _ | created _ _ _ _ _ _ _ _ | deleted _ _ _ =>
    exact .unchanged
  | _ => exact absurd rfl (hSubject _)

theorem perform_turns (libs : External) (sys : System) (call : Call) :
    Turns sys.db call (perform libs sys call).db.ledger := by
  have hMove : Move libs sys call.subject (perform libs sys call).db := perform_move call
  cases call with
  | createIntent store command now => exact (advance_of_advances createIntent_advances).2
  | markDispatching store command now => exact (advance_of_advances markDispatching_advances).2
  | settle store command now => exact (advance_of_advances settle_advances).2
  | recoverStale store candidate now => exact (advance_of_advances recoverStaleCandidate_advances).2
  | reconcile store command childId now => exact (advance_of_advances reconcile_advances).2
  | _ => exact hMove.turns nofun _

end Calls

/-! ## Checked rows -/

/-- Every row that the store wrote passes the checks of the ledger. -/
def Checked (libs : External) (ledger : Ledger) : Prop :=
  ∀ id row, ledger.lookup id = some row → row.kind ≠ .openingBalance → row.satisfiesChecks libs

section Checked

variable {libs : External} {sys : System} {subject : Subject} {db' : Db}

theorem Checked.insert {ledger : Ledger} (h : Checked libs ledger) {id : Uuid} {row : LedgerRow}
    (hRow : row.satisfiesChecks libs) : Checked libs (ledger.insert id row) := by
  intro id' row' hRow' hKind
  obtain ⟨-, rfl⟩ | ⟨-, hOld⟩ := Table.lookup_insert_cases hRow'
  · exact hRow
  · exact h id' row' hOld hKind

theorem Move.checked (hMove : Move libs sys subject db') (h : Checked libs sys.db.ledger) :
    Checked libs db'.ledger := by
  cases hMove with
  | quiet _ hLedger _ _ => exact hLedger ▸ h
  | opened _ hAppends _ _ _ _ _ _ _ => exact h.insert hAppends.checks
  | dispatched _ _ _ _ hChecks => exact h.insert hChecks
  | settled _ hRewrites _ _ _ _ | suspended _ hRewrites _ _ => exact h.insert hRewrites.checks
  | reconciled _ hRewrites hAppends _ _ _ _ _ _ _ _ =>
    exact (h.insert hAppends.checks).insert hRewrites.checks
  | attempted _ hRewrites hAppends _ _ _ _ =>
    exact (h.insert hRewrites.checks).insert hAppends.checks
  | flagged _ hAppends _ _ _ _ _ => exact h.insert hAppends.checks
  | @rebuilt rebuild auditId account account' audit row now _ _ _ hAppends hKind _ _ hChecks _ _ _ _
      _ _ _ _ =>
    intro id found hFound hFoundKind
    rw [Table.lookup_update] at hFound
    obtain ⟨before, hBefore, rfl⟩ := Option.map_eq_some_iff.mp hFound
    split at hFoundKind
    · next hCloses =>
      rw [if_pos hCloses]
      obtain ⟨-, rfl⟩ | ⟨-, hOld⟩ := Table.lookup_insert_cases hBefore
      · exact absurd hCloses (not_closesIssue_audit hKind)
      · exact hChecks id before hOld hCloses
    · next hOther =>
      rw [if_neg hOther]
      exact h.insert hAppends.checks id before hBefore hFoundKind
  | checkpointed _ _ _ _ | edited _ _ _ _ | created _ _ _ _ _ _ _ _ | deleted _ _ _ => exact h

theorem System.Migrated.checked (h : sys.Migrated) : Checked libs sys.db.ledger :=
  fun _ _ hRow hKind => absurd (h.row hRow).2.1 hKind

theorem Checked.run (h : Checked libs sys.db.ledger) (calls : List Call) :
    Checked libs (runCalls libs sys calls).db.ledger := by
  induction calls generalizing sys with
  | nil => exact h
  | cons call calls ih => exact ih ((perform_move call).checked h)

end Checked

/-! ## States -/

/-- The state of an intent, as `into_record` reads it. -/
def LedgerRow.intentState (row : LedgerRow) : Option BudgetIntentState :=
  match row.status, row.dispatchState with
  | .pending, some .prepared => some .prepared
  | .pending, some .dispatching => some .dispatching
  | .unresolved, _ => some .unresolved
  | .settled, _ => some .settled
  | .resolved, _ => some .resolved
  | _, _ => none

def BudgetIntentState.isOpen : BudgetIntentState → Bool
  | .prepared | .dispatching | .unresolved => true
  | .settled | .resolved => false

/-- One step of an intent. -/
inductive BudgetIntentState.Next : BudgetIntentState → BudgetIntentState → Prop
  | dispatch : Next .prepared .dispatching
  | suspend {state : BudgetIntentState} (hPending : state = .prepared ∨ state = .dispatching) :
      Next state .unresolved
  | settle {state : BudgetIntentState} (hOpen : state.isOpen) : Next state .settled
  | resolve {state : BudgetIntentState} (hOpen : state.isOpen) : Next state .resolved

section States

variable {libs : External} {db : Db} {id : Uuid} {row row' : LedgerRow} {call : Call}

theorem intentState_of_checks (h : row.satisfiesChecks libs) (hKind : row.kind = .request) :
    ∃ state, row.intentState = some state := by
  simp only [LedgerRow.satisfiesChecks, Bool.and_eq_true] at h
  have hValid : row.kindStatusValid := by tauto
  have hFields : row.requestDispatchFields := by tauto
  simp only [LedgerRow.kindStatusValid, hKind] at hValid
  simp only [LedgerRow.requestDispatchFields, hKind, if_true] at hFields
  unfold LedgerRow.intentState
  cases hStatus : row.status with
  | pending =>
    simp only [hStatus, bne_self_eq_false, Bool.false_or, Bool.and_eq_true] at hFields
    obtain ⟨dispatch, hDispatch⟩ := Option.isSome_iff_exists.mp hFields.1.1
    cases dispatch <;> simp [hDispatch]
  | unresolved | settled | resolved => exact ⟨_, rfl⟩
  | waived => simp [hStatus] at hValid

theorem intentState_of_pending {dispatch : DispatchState} (hStatus : row.status = .pending)
    (hDispatch : row.dispatchState = some dispatch) :
    row.intentState = some (match dispatch with
      | .prepared => .prepared
      | .dispatching => .dispatching) := by
  cases dispatch <;> simp [LedgerRow.intentState, hStatus, hDispatch]

theorem intentState_unresolved (h : row.status = .unresolved) :
    row.intentState = some .unresolved := by
  simp [LedgerRow.intentState, h]

theorem intentState_settled (h : row.status = .settled) : row.intentState = some .settled := by
  simp [LedgerRow.intentState, h]

theorem intentState_resolved (h : row.status = .resolved) : row.intentState = some .resolved := by
  simp [LedgerRow.intentState, h]

theorem isOpen_intentState {state : BudgetIntentState} (h : isOpen row)
    (hState : row.intentState = some state) : state.isOpen := by
  rcases isOpen_iff.mp h with hStatus | hStatus
  · cases hDispatch : row.dispatchState with
    | none => simp [LedgerRow.intentState, hStatus, hDispatch] at hState
    | some dispatch =>
      rw [intentState_of_pending hStatus hDispatch] at hState
      cases dispatch <;> cases hState <;> rfl
  · rw [intentState_unresolved hStatus] at hState
    cases hState
    rfl

theorem suspend_intentState {state : BudgetIntentState} (h : isOpen row)
    (hState : row.intentState = some state) :
    BudgetIntentState.unresolved = state ∨ state.Next .unresolved := by
  have hOpen := isOpen_intentState h hState
  cases state with
  | prepared => exact .inr (.suspend (.inl rfl))
  | dispatching => exact .inr (.suspend (.inr rfl))
  | unresolved => exact .inl rfl
  | settled | resolved => cases hOpen

theorem Turn.state (h : Turn db id row call row') (hKind : row.kind = .request)
    {state : BudgetIntentState} (hState : row.intentState = some state) :
    ∃ state', row'.intentState = some state' ∧ (state' = state ∨ state.Next state') ∧
      (state' = .resolved → state ≠ .resolved →
        ∃ store command childId now, call = .reconcile store command childId now) := by
  cases h with
  | kept => exact ⟨state, hState, .inl rfl, fun hResolved hOther => absurd hResolved hOther⟩
  | dispatched _ hStatus hPrepared hStatus' hDispatch _ =>
    rw [intentState_of_pending hStatus hPrepared] at hState
    cases hState
    exact ⟨_, intentState_of_pending hStatus' hDispatch, .inr .dispatch, nofun⟩
  | settled _ hOpen _ hStatus' _ _ =>
    exact ⟨_, intentState_settled hStatus', .inr (.settle (isOpen_intentState hOpen hState)), nofun⟩
  | suspended _ hOpen hStatus' _ =>
    exact ⟨_, intentState_unresolved hStatus', suspend_intentState hOpen hState, nofun⟩
  | recovered _ hStatus _ _ hStatus' _ _ =>
    have hOpen := isOpen_iff.mpr (.inl hStatus)
    exact ⟨_, intentState_settled hStatus', .inr (.settle (isOpen_intentState hOpen hState)), nofun⟩
  | fenced _ hStatus _ _ hStatus' _ =>
    have hOpen := isOpen_iff.mpr (.inl hStatus)
    exact ⟨_, intentState_unresolved hStatus', suspend_intentState hOpen hState, nofun⟩
  | reconciled _ hOpen _ hStatus' _ =>
    rcases hStatus' with hResolved | hUnresolved
    · exact ⟨_, intentState_resolved hResolved, .inr (.resolve (isOpen_intentState hOpen hState)),
        fun _ _ => ⟨_, _, _, _, rfl⟩⟩
    · exact ⟨_, intentState_unresolved hUnresolved, suspend_intentState hOpen hState, nofun⟩
  | closed hIssue _ _ => simp [hKind] at hIssue

theorem Turn.dispatching (h : Turn db id row call row') (hKind : row.kind = .request)
    (hDispatch : row.dispatchState = some .dispatching) :
    row'.dispatchState = some .dispatching := by
  cases h with
  | kept => exact hDispatch
  | dispatched _ _ _ _ hDispatch' _ => exact hDispatch'
  | settled _ _ _ _ _ hSame | suspended _ _ _ hSame | recovered _ _ _ _ _ _ hSame
  | fenced _ _ _ _ _ hSame | reconciled _ _ _ _ hSame => exact hSame.trans hDispatch
  | closed hIssue _ _ => simp [hKind] at hIssue

end States

/-! ## Runs -/

section Runs

variable {libs : External} {sys : System} {id : Uuid} {row row' : LedgerRow}

theorem kind_kept {call : Call} (hRow : sys.db.ledger.lookup id = some row)
    (hRow' : (perform libs sys call).db.ledger.lookup id = some row') : row'.kind = row.kind := by
  obtain ⟨found, hFound, hEvolves⟩ := (perform_ledger libs call).old id row hRow
  obtain rfl : found = row' := Option.mem_unique hFound hRow'
  exact hEvolves.identity.1

theorem perform_state (hChecked : Checked libs sys.db.ledger) (call : Call)
    (hRow : sys.db.ledger.lookup id = some row) (hKind : row.kind = .request) :
    ∃ row' state state', (perform libs sys call).db.ledger.lookup id = some row' ∧
      row'.kind = .request ∧ row.intentState = some state ∧ row'.intentState = some state' ∧
      (state' = state ∨ state.Next state') ∧
      (state' = .resolved → state ≠ .resolved →
        ∃ store command childId now, call = .reconcile store command childId now) := by
  obtain ⟨row', hRow', hTurn⟩ := (perform_turns libs sys call).old id row hRow
  obtain ⟨state, hState⟩ := intentState_of_checks (hChecked id row hRow (by simp [hKind])) hKind
  obtain ⟨state', hState', hNext, hResolved⟩ := hTurn.state hKind hState
  exact ⟨row', state, state', hRow', (kind_kept hRow hRow').trans hKind, hState, hState', hNext,
    hResolved⟩

theorem run_state (hChecked : Checked libs sys.db.ledger) (calls : List Call)
    (hRow : sys.db.ledger.lookup id = some row) (hKind : row.kind = .request) :
    ∃ row' state state', (runCalls libs sys calls).db.ledger.lookup id = some row' ∧
      row'.kind = .request ∧ row.intentState = some state ∧ row'.intentState = some state' ∧
      Relation.ReflTransGen BudgetIntentState.Next state state' := by
  induction calls generalizing sys row with
  | nil =>
    obtain ⟨state, hState⟩ := intentState_of_checks (hChecked id row hRow (by simp [hKind])) hKind
    exact ⟨row, state, state, hRow, hKind, hState, hState, .refl⟩
  | cons call calls ih =>
    obtain ⟨middle, state, middleState, hMiddle, hMiddleKind, hState, hMiddleState, hNext, -⟩ :=
      perform_state hChecked call hRow hKind
    obtain ⟨row', start, state', hRow', hKind', hStart, hState', hSteps⟩ :=
      ih ((perform_move call).checked hChecked) hMiddle hMiddleKind
    obtain rfl : start = middleState := Option.mem_unique hStart hMiddleState
    refine ⟨row', state, state', hRow', hKind', hState, hState', ?_⟩
    rcases hNext with rfl | hStep
    · exact hSteps
    · exact hSteps.head hStep

theorem run_closed (hRow : sys.db.ledger.lookup id = some row) (hClosed : isOpen row = false)
    (calls : List Call) : (runCalls libs sys calls).db.ledger.lookup id = some row := by
  induction calls generalizing sys with
  | nil => exact hRow
  | cons call calls ih => exact ih ((perform_ledger libs call).closed_kept hRow hClosed)

theorem run_dispatching (calls : List Call) (hRow : sys.db.ledger.lookup id = some row)
    (hKind : row.kind = .request) (hDispatch : row.dispatchState = some .dispatching) :
    ∃ row', (runCalls libs sys calls).db.ledger.lookup id = some row' ∧ row'.kind = .request ∧
      row'.dispatchState = some .dispatching := by
  induction calls generalizing sys row with
  | nil => exact ⟨row, hRow, hKind, hDispatch⟩
  | cons call calls ih =>
    obtain ⟨middle, hMiddle, hTurn⟩ := (perform_turns libs sys call).old id row hRow
    exact ih hMiddle ((kind_kept hRow hMiddle).trans hKind) (hTurn.dispatching hKind hDispatch)

variable {db : Db} {store : PgBudgetStore} {now : Nat}

theorem Turn.not_recovered {candidate : StaleIntentCandidate}
    (h : Turn db id row (.recoverStale store candidate now) row')
    (hDispatch : row.dispatchState = some .dispatching) (hStatus : row.status ≠ .settled) :
    row'.status ≠ .settled := by
  cases h with
  | kept => exact hStatus
  | recovered _ _ hPrepared _ _ _ _ => simp [hDispatch] at hPrepared
  | fenced _ _ _ _ hStatus' _ | closed _ _ hStatus' => simp [hStatus']

theorem Turn.settles_prepared {command : SettleBudgetIntent}
    (h : Turn db id row (.settle store command now) row')
    (hDispatch : row.dispatchState = some .prepared) (hStatus : row.status ≠ .settled)
    (hStatus' : row'.status = .settled) : row'.costStatus = some .notIncurred := by
  cases h with
  | kept => exact absurd hStatus' hStatus
  | settled _ _ hPrepared _ hCost _ => rw [hCost, hPrepared hDispatch]
  | suspended _ _ hUnresolved _ => simp [hUnresolved] at hStatus'
  | closed _ _ hResolved => simp [hResolved] at hStatus'

/-- **Forward only.** In every run, one call moves an intent by at most one step and a whole run by
steps; a settled or resolved intent never changes; once an intent went out, stale recovery never
settles it; and a settlement of an intent that is still prepared records that no cost was
incurred. -/
theorem intents_move_forward (hMigrated : sys.Migrated) (calls : List Call) {before : System}
    (hBefore : before = runCalls libs sys calls) {id : Uuid} {row : LedgerRow}
    (hRow : before.db.ledger.lookup id = some row) (hKind : row.kind = .request) :
    (∀ call, ∃ row' state state', (perform libs before call).db.ledger.lookup id = some row' ∧
      row.intentState = some state ∧ row'.intentState = some state' ∧
      (state' = state ∨ state.Next state') ∧
      (state' = .resolved → state ≠ .resolved →
        ∃ store command childId now, call = .reconcile store command childId now)) ∧
    (∀ later, ∃ row' state state', (runCalls libs before later).db.ledger.lookup id = some row' ∧
      row.intentState = some state ∧ row'.intentState = some state' ∧
      Relation.ReflTransGen BudgetIntentState.Next state state') ∧
    (row.status = .settled ∨ row.status = .resolved →
      ∀ later, (runCalls libs before later).db.ledger.lookup id = some row) ∧
    (row.dispatchState = some .dispatching → ∀ later store candidate now middle row',
      (runCalls libs before later).db.ledger.lookup id = some middle → middle.status ≠ .settled →
      (perform libs (runCalls libs before later)
        (.recoverStale store candidate now)).db.ledger.lookup id = some row' →
      row'.status ≠ .settled) ∧
    (row.dispatchState = some .prepared → row.status ≠ .settled → ∀ store command now row',
      (perform libs before (.settle store command now)).db.ledger.lookup id = some row' →
      row'.status = .settled → row'.costStatus = some .notIncurred) := by
  have hChecked : Checked libs before.db.ledger := hBefore ▸ hMigrated.checked.run calls
  refine ⟨fun call => ?_, fun later => ?_, fun hClosed later => ?_, ?_, ?_⟩
  · obtain ⟨row', state, state', hRow', -, hState, hState', hNext, hResolved⟩ :=
      perform_state hChecked call hRow hKind
    exact ⟨row', state, state', hRow', hState, hState', hNext, hResolved⟩
  · obtain ⟨row', state, state', hRow', -, hState, hState', hSteps⟩ :=
      run_state hChecked later hRow hKind
    exact ⟨row', state, state', hRow', hState, hState', hSteps⟩
  · refine run_closed hRow ?_ later
    rcases hClosed with hStatus | hStatus
    · exact isOpen_of_settled hStatus
    · exact isOpen_of_resolved hStatus
  · intro hDispatch later store candidate now middle row' hMiddle hStatus hRow'
    obtain ⟨middle', hMiddle', -, hDispatch'⟩ := run_dispatching later hRow hKind hDispatch
    obtain rfl : middle' = middle := Option.mem_unique hMiddle' hMiddle
    obtain ⟨found, hFound, hTurn⟩ := (perform_turns libs _ _).old id middle' hMiddle
    obtain rfl : found = row' := Option.mem_unique hFound hRow'
    exact hTurn.not_recovered hDispatch' hStatus
  · intro hDispatch hStatus store command now row' hRow' hStatus'
    obtain ⟨found, hFound, hTurn⟩ := (perform_turns libs _ _).old id row hRow
    obtain rfl : found = row' := Option.mem_unique hFound hRow'
    exact hTurn.settles_prepared hDispatch hStatus hStatus'

/-- The dispatched intent of the sample run is on its way to a terminal state, and no stale
recovery settles it. -/
theorem intents_move_forward_sample : ∃ before row,
    before = runCalls sampleExternal sampleSystem (sampleCalls.take 3) ∧
      before.db.ledger.lookup 5 = some row ∧ row.dispatchState = some .dispatching ∧
      ∀ store candidate now row',
        (perform sampleExternal before (.recoverStale store candidate now)).db.ledger.lookup 5 =
          some row' → row'.status ≠ .settled := by
  obtain ⟨row, hRow, hFields⟩ := Option.map_eq_some_iff.mp sampleRun_settlement.1
  obtain ⟨hKind, hRest⟩ := Prod.mk.inj hFields
  obtain ⟨hStatus, hDispatch⟩ := Prod.mk.inj hRest
  obtain ⟨-, -, -, hRecovery, -⟩ := intents_move_forward sampleSystem_migrated (sampleCalls.take 3)
    rfl hRow hKind
  exact ⟨_, row, rfl, hRow, hDispatch, fun store candidate now row' hRow' =>
    hRecovery hDispatch [] store candidate now row row' hRow (by simp [hStatus]) hRow'⟩

end Runs

end KongRust.Budget
