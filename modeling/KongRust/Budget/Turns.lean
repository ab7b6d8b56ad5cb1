import KongRust.Budget.Moves

/-!
# Turns of a ledger row

Five transactions write the rows of intents, each under a guard of its own. `Turn` says what one
call can do to one row and under which guard, and `Entry` what a new row is.
-/

namespace KongRust.Budget

/-- The rows of `ai_budget_ledger` by their identifiers. -/
abbrev Ledger := AList fun _ : Uuid => LedgerRow

theorem isOpen_iff {row : LedgerRow} :
    isOpen row ↔ row.status = .pending ∨ row.status = .unresolved := by
  simp [isOpen]

def Db.ownerLive (db : Db) (row : LedgerRow) (now : Nat) : Bool :=
  row.ownerSessionId.any fun sessionId => (db.ownerSessions.lookup sessionId).any (·.live now)

/-- What a call can do to the row `id`. -/
inductive Turn (db : Db) (id : Uuid) (row : LedgerRow) : Call → LedgerRow → Prop
  | kept {call : Call} : Turn db id row call row
  | dispatched {store : PgBudgetStore} {command : MarkBudgetDispatching} {now : Nat}
      {row' : LedgerRow} (hIntent : command.intentId = id) (hStatus : row.status = .pending)
      (hPrepared : row.dispatchState = some .prepared) (hStatus' : row'.status = .pending)
      (hDispatch : row'.dispatchState = some .dispatching)
      (hSession : row'.ownerSessionId = row.ownerSessionId) :
      Turn db id row (.markDispatching store command now) row'
  | settled {store : PgBudgetStore} {command : SettleBudgetIntent} {now : Nat} {row' : LedgerRow}
      (hIntent : command.intentId = id) (hOpen : isOpen row)
      (hPrepared : row.dispatchState = some .prepared → command.cost.status = .notIncurred)
      (hStatus' : row'.status = .settled) (hCost : row'.costStatus = some command.cost.status)
      (hDispatch : row'.dispatchState = row.dispatchState) :
      Turn db id row (.settle store command now) row'
  | suspended {store : PgBudgetStore} {command : SettleBudgetIntent} {now : Nat} {row' : LedgerRow}
      (hIntent : command.intentId = id) (hOpen : isOpen row) (hStatus' : row'.status = .unresolved)
      (hDispatch : row'.dispatchState = row.dispatchState) :
      Turn db id row (.settle store command now) row'
  /-- Stale recovery of an intent that never went out. -/
  | recovered {store : PgBudgetStore} {candidate : StaleIntentCandidate} {now : Nat}
      {row' : LedgerRow} (hIntent : candidate.intentId = id) (hStatus : row.status = .pending)
      (hPrepared : row.dispatchState = some .prepared) (hOwner : db.ownerLive row now = false)
      (hStatus' : row'.status = .settled) (hCost : row'.costStatus = some .notIncurred)
      (hDispatch : row'.dispatchState = row.dispatchState) :
      Turn db id row (.recoverStale store candidate now) row'
  /-- Stale recovery of an intent that went out. -/
  | fenced {store : PgBudgetStore} {candidate : StaleIntentCandidate} {now : Nat}
      {row' : LedgerRow} (hIntent : candidate.intentId = id) (hStatus : row.status = .pending)
      (hDispatching : row.dispatchState = some .dispatching)
      (hOwner : db.ownerLive row now = false) (hStatus' : row'.status = .unresolved)
      (hDispatch : row'.dispatchState = row.dispatchState) :
      Turn db id row (.recoverStale store candidate now) row'
  /-- A reconciliation, or an attempt at one whose amount does not fit. -/
  | reconciled {store : PgBudgetStore} {command : ReconcileBudgetIntent} {childId : Uuid}
      {now : Nat} {row' : LedgerRow} (hIntent : command.intentId = id) (hOpen : isOpen row)
      (hOwner : row.status = .pending → db.ownerLive row now = false)
      (hStatus' : row'.status = .resolved ∨ row'.status = .unresolved)
      (hDispatch : row'.dispatchState = row.dispatchState) :
      Turn db id row (.reconcile store command childId now) row'
  /-- A rebuild closes an account issue. -/
  | closed {call : Call} {row' : LedgerRow} (hKind : row.kind = .accountIssue)
      (hStatus : row.status = .unresolved) (hStatus' : row'.status = .resolved) :
      Turn db id row call row'

/-- What a new row is: the intent that a live owner creates for an account with room in its tail,
or a row that is no intent. -/
inductive Entry (db : Db) (id : Uuid) : Call → LedgerRow → Prop
  | intent {store : PgBudgetStore} {command : CreateBudgetIntent} {now : Nat}
      {account : AccountRow} {settings : RuntimeSettingsRow} {owner : OwnerRow}
      (hIntent : command.intentId = id)
      (hAccount : db.virtualKeys.lookup command.virtualKeyId = some account)
      (hSettings :
        db.runtimeSettings.lookup store.config.deploymentNamespace = some settings)
      (hTail : account.budgetCheckpointTailEvents < settings.checkpointHardTailEvents)
      (hOwner : db.ownerSessions.lookup command.ownerSessionId = some owner)
      (hLive : owner.live now) :
      Entry db id (.createIntent store command now)
        (preparedRow command (account.intoSnapshot command.virtualKeyId)
          (account.budgetAccountingRevision + 1) now)
  | other {call : Call} {row : LedgerRow} (hKind : row.kind ≠ .request) : Entry db id call row

/-- One call, row by row. -/
structure Turns (db : Db) (call : Call) (ledger' : Ledger) : Prop where
  old : ∀ id row, db.ledger.lookup id = some row →
    ∃ row', ledger'.lookup id = some row' ∧ Turn db id row call row'
  new : ∀ id row, db.ledger.lookup id = none → ledger'.lookup id = some row →
    Entry db id call row

namespace Turns

variable {db : Db} {call : Call} {id childId : Uuid} {row row' child : LedgerRow}

theorem unchanged : Turns db call db.ledger where
  old id row hRow := ⟨row, hRow, .kept⟩
  new id row hAbsent hRow := by
    rw [hAbsent] at hRow
    cases hRow

theorem rewrite (hFound : db.ledger.lookup id = some row) (hTurn : Turn db id row call row') :
    Turns db call (db.ledger.insert id row') where
  old id' other hOther := by
    by_cases hId : id' = id
    · subst hId
      obtain rfl : row = other := Option.mem_unique hFound hOther
      exact ⟨row', AList.lookup_insert _, hTurn⟩
    · exact ⟨other, (AList.lookup_insert_ne hId).trans hOther, .kept⟩
  new id' other hAbsent hOther := by
    obtain ⟨rfl, -⟩ | ⟨-, hOld⟩ := Table.lookup_insert_cases hOther
    · exact absurd (hAbsent.symm.trans hFound) (by simp)
    · exact absurd (hAbsent.symm.trans hOld) (by simp)

theorem append {middle ledger' : Ledger} (hTurns : Turns db call middle)
    (h : ∀ id', ledger'.lookup id' = (middle.insert childId child).lookup id')
    (hFresh : db.ledger.lookup childId = none) (hEntry : Entry db childId call child) :
    Turns db call ledger' where
  old id' other hOther := by
    obtain ⟨other', hOther', hTurn⟩ := hTurns.old id' other hOther
    refine ⟨other', ?_, hTurn⟩
    rw [h, AList.lookup_insert_ne]
    · exact hOther'
    · rintro rfl
      exact absurd (hFresh.symm.trans hOther) (by simp)
  new id' other hAbsent hOther := by
    rw [h] at hOther
    obtain ⟨rfl, rfl⟩ | ⟨-, hOld⟩ := Table.lookup_insert_cases hOther
    · exact hEntry
    · exact hTurns.new id' other hAbsent hOld

theorem rewrite_append (hFound : db.ledger.lookup id = some row)
    (hTurn : Turn db id row call row') (hFresh : db.ledger.lookup childId = none)
    (hEntry : Entry db childId call child) :
    Turns db call ((db.ledger.insert id row').insert childId child) :=
  (rewrite hFound hTurn).append (fun _ => rfl) hFresh hEntry

theorem append_rewrite (hNe : id ≠ childId) (hFound : db.ledger.lookup id = some row)
    (hTurn : Turn db id row call row') (hFresh : db.ledger.lookup childId = none)
    (hEntry : Entry db childId call child) :
    Turns db call ((db.ledger.insert childId child).insert id row') :=
  (rewrite hFound hTurn).append (Table.lookup_insert_comm hNe.symm) hFresh hEntry

end Turns

end KongRust.Budget
