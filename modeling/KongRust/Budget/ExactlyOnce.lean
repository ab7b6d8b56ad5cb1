import KongRust.Budget.Accounts

/-!
# A request is charged at most once

The ledger only grows, and only its open rows are rewritten. An intent that is resolved has
exactly one reconciliation, and a request has exactly one intent; so of the rows that can charge a
request, at most one is ever settled, and it never changes again. Every change of a used amount is
the cost of the row that the call settles.
-/

namespace KongRust.Budget

open Transaction

/-! ## How a ledger moves -/

/-- A row stays as it is, or it was open and keeps what identifies it. -/
def LedgerRow.Evolves (row row' : LedgerRow) : Prop :=
  row' = row ∨ isOpen row ∧ ∃ revision, row'.Follows row revision

theorem LedgerRow.Evolves.identity {row row' : LedgerRow} (h : row.Evolves row') :
    row'.kind = row.kind ∧ row'.requestId = row.requestId ∧
      row'.parentIntentId = row.parentIntentId := by
  rcases h with rfl | ⟨-, _, hFollows⟩
  · exact ⟨rfl, rfl, rfl⟩
  · exact ⟨hFollows.kind, hFollows.requestId, hFollows.parentIntentId⟩

theorem LedgerRow.Evolves.eq_of_closed {row row' : LedgerRow} (h : row.Evolves row')
    (hClosed : isOpen row = false) : row' = row := by
  rcases h with rfl | ⟨hOpen, -⟩
  · rfl
  · simp [hClosed] at hOpen

/-- What a new row brings: a request of its own, or the resolution of an open intent. -/
structure Joins (before after : Ledger) (row : LedgerRow) : Prop where
  named : row.kind = .request → row.requestId ≠ none
  unique : ∀ requestId, row.requestId = some requestId → ∀ id other,
    before.lookup id = some other → other.requestId ≠ some requestId
  resolves : row.kind = .reconciliation → ∃ id intent intent', row.parentIntentId = some id ∧
    before.lookup id = some intent ∧ intent.kind = .request ∧ isOpen intent ∧
    after.lookup id = some intent' ∧ intent'.status = .resolved

/-- One step of the ledger: rows evolve, and at most one joins. -/
structure LedgerStep (before after : Ledger) : Prop where
  old : ∀ id row, before.lookup id = some row →
    ∃ row', after.lookup id = some row' ∧ row.Evolves row'
  new : ∀ id row, before.lookup id = none → after.lookup id = some row → Joins before after row
  single : ∀ id id', before.lookup id = none → before.lookup id' = none →
    after.lookup id ≠ none → after.lookup id' ≠ none → id = id'

/-- A step in which no row joins. -/
structure Rewritten (before after : Ledger) : Prop where
  absent : ∀ id, before.lookup id = none → after.lookup id = none
  evolves : ∀ id row, before.lookup id = some row →
    ∃ row', after.lookup id = some row' ∧ row.Evolves row'

namespace Rewritten

variable {before middle after : Ledger} {id : Uuid} {row row' : LedgerRow}

theorem refl (ledger : Ledger) : Rewritten ledger ledger :=
  ⟨fun _ h => h, fun _ row h => ⟨row, h, .inl rfl⟩⟩

theorem insert (hFound : before.lookup id = some row) (hEvolves : row.Evolves row') :
    Rewritten before (before.insert id row') where
  absent id' hAbsent := by
    rw [AList.lookup_insert_ne]
    · exact hAbsent
    · rintro rfl
      exact absurd (hAbsent.symm.trans hFound) (by simp)
  evolves id' other hOther := by
    by_cases hId : id' = id
    · subst hId
      obtain rfl : row = other := Option.mem_unique hFound hOther
      exact ⟨row', AList.lookup_insert _, hEvolves⟩
    · exact ⟨other, (AList.lookup_insert_ne hId).trans hOther, .inl rfl⟩

theorem update {cond : LedgerRow → Bool} {change : LedgerRow → LedgerRow}
    (h : ∀ row, cond row → row.Evolves (change row)) :
    Rewritten before (Table.update cond change before) where
  absent id hAbsent := by rw [Table.lookup_update, hAbsent, Option.map_none]
  evolves id row hRow := by
    refine ⟨_, by rw [Table.lookup_update, hRow, Option.map_some], ?_⟩
    split
    · next hCond => exact h row hCond
    · exact .inl rfl

theorem step (h : Rewritten before after) : LedgerStep before after where
  old := h.evolves
  new id row hAbsent hRow := by
    rw [h.absent id hAbsent] at hRow
    cases hRow
  single id _ hAbsent _ hPresent _ := absurd (h.absent id hAbsent) hPresent

theorem append (h : Rewritten before middle) (hFresh : before.lookup id = none)
    (hAfter : ∀ id', after.lookup id' = (middle.insert id row).lookup id')
    (hJoins : Joins before after row) : LedgerStep before after where
  old id' other hOther := by
    obtain ⟨other', hOther', hEvolves⟩ := h.evolves id' other hOther
    refine ⟨other', ?_, hEvolves⟩
    rw [hAfter, AList.lookup_insert_ne]
    · exact hOther'
    · rintro rfl
      exact absurd (hFresh.symm.trans hOther) (by simp)
  new id' other hAbsent hOther := by
    rw [hAfter] at hOther
    obtain ⟨-, rfl⟩ | ⟨-, hOld⟩ := Table.lookup_insert_cases hOther
    · exact hJoins
    · rw [h.absent id' hAbsent] at hOld
      cases hOld
  single id₁ id₂ hAbsent₁ hAbsent₂ hPresent₁ hPresent₂ := by
    have hNew : ∀ id', before.lookup id' = none → after.lookup id' ≠ none → id' = id := by
      intro id' hAbsent hPresent
      by_contra hId
      rw [hAfter, AList.lookup_insert_ne hId] at hPresent
      exact hPresent (h.absent id' hAbsent)
    rw [hNew id₁ hAbsent₁ hPresent₁, hNew id₂ hAbsent₂ hPresent₂]

end Rewritten

/-! ## What a ledger keeps apart -/

/-- A request has one intent, and an intent one reconciliation, which leaves it resolved. -/
structure Exclusive (ledger : Ledger) : Prop where
  named : ∀ id row, ledger.lookup id = some row → row.kind = .request → row.requestId ≠ none
  intent : ∀ id row id' row' requestId, ledger.lookup id = some row →
    ledger.lookup id' = some row' → row.requestId = some requestId →
    row'.requestId = some requestId → id = id'
  resolved : ∀ id row, ledger.lookup id = some row → row.kind = .reconciliation →
    ∃ parentId parent, row.parentIntentId = some parentId ∧
      ledger.lookup parentId = some parent ∧ parent.kind = .request ∧ parent.status = .resolved
  child : ∀ id row id' row', ledger.lookup id = some row → ledger.lookup id' = some row' →
    row.kind = .reconciliation → row'.kind = .reconciliation →
    row.parentIntentId = row'.parentIntentId → id = id'

section Exclusive

variable {before after : Ledger} {id : Uuid} {row row' : LedgerRow}

theorem LedgerStep.cases (h : LedgerStep before after) (hRow : after.lookup id = some row') :
    (∃ row, before.lookup id = some row ∧ row.Evolves row') ∨
      (before.lookup id = none ∧ Joins before after row') := by
  cases hBefore : before.lookup id with
  | none => exact .inr ⟨rfl, h.new id row' hBefore hRow⟩
  | some row =>
    obtain ⟨evolved, hEvolved, hEvolves⟩ := h.old id row hBefore
    obtain rfl : evolved = row' := Option.mem_unique hEvolved hRow
    exact .inl ⟨row, rfl, hEvolves⟩

theorem LedgerStep.closed_kept (h : LedgerStep before after) (hRow : before.lookup id = some row)
    (hClosed : isOpen row = false) : after.lookup id = some row := by
  obtain ⟨row', hRow', hEvolves⟩ := h.old id row hRow
  rw [← hEvolves.eq_of_closed hClosed]
  exact hRow'

theorem isOpen_of_resolved (h : row.status = .resolved) : isOpen row = false := by
  simp [isOpen, h]

theorem isOpen_of_settled (h : row.status = .settled) : isOpen row = false := by
  simp [isOpen, h]

theorem Exclusive.parent_ne (h : Exclusive before) {other : LedgerRow}
    (hOther : before.lookup id = some other) (hKind : other.kind = .reconciliation)
    (hJoins : Joins before after row) (hKind' : row.kind = .reconciliation) :
    row.parentIntentId ≠ other.parentIntentId := by
  intro hSame
  obtain ⟨parentId, parent, hParentId, hParent, -, hResolved⟩ := h.resolved id other hOther hKind
  obtain ⟨intentId, intent, -, hIntentId, hIntent, -, hOpen, -⟩ := hJoins.resolves hKind'
  obtain rfl : intentId = parentId := Option.some.inj (hIntentId.symm.trans (hSame.trans hParentId))
  obtain rfl : intent = parent := Option.mem_unique hIntent hParent
  simp [isOpen_of_resolved hResolved] at hOpen

/-- **Step.** Every step of the ledger keeps intents and reconciliations apart. -/
theorem Exclusive.step (h : Exclusive before) (hStep : LedgerStep before after) :
    Exclusive after where
  named id row' hRow' hKind := by
    obtain ⟨row, hRow, hEvolves⟩ | ⟨-, hJoins⟩ := hStep.cases hRow'
    · obtain ⟨hSameKind, hSameRequest, -⟩ := hEvolves.identity
      rw [hSameRequest]
      exact h.named id row hRow (hSameKind.symm.trans hKind)
    · exact hJoins.named hKind
  intent id₁ row₁' id₂ row₂' requestId hRow₁' hRow₂' hRequest₁ hRequest₂ := by
    obtain ⟨row₁, hRow₁, hEvolves₁⟩ | ⟨hAbsent₁, hJoins₁⟩ := hStep.cases hRow₁'
    · have hSame₁ := hEvolves₁.identity.2.1.symm.trans hRequest₁
      obtain ⟨row₂, hRow₂, hEvolves₂⟩ | ⟨-, hJoins₂⟩ := hStep.cases hRow₂'
      · exact h.intent id₁ row₁ id₂ row₂ requestId hRow₁ hRow₂ hSame₁
          (hEvolves₂.identity.2.1.symm.trans hRequest₂)
      · exact absurd hSame₁ (hJoins₂.unique requestId hRequest₂ id₁ row₁ hRow₁)
    · obtain ⟨row₂, hRow₂, hEvolves₂⟩ | ⟨hAbsent₂, -⟩ := hStep.cases hRow₂'
      · exact absurd (hEvolves₂.identity.2.1.symm.trans hRequest₂)
          (hJoins₁.unique requestId hRequest₁ id₂ row₂ hRow₂)
      · exact hStep.single id₁ id₂ hAbsent₁ hAbsent₂ (by simp [hRow₁']) (by simp [hRow₂'])
  resolved id row' hRow' hKind := by
    obtain ⟨row, hRow, hEvolves⟩ | ⟨-, hJoins⟩ := hStep.cases hRow'
    · obtain ⟨hSameKind, -, hSameParent⟩ := hEvolves.identity
      obtain ⟨parentId, parent, hParentId, hParent, hIntent, hResolved⟩ :=
        h.resolved id row hRow (hSameKind.symm.trans hKind)
      exact ⟨parentId, parent, hSameParent.trans hParentId,
        hStep.closed_kept hParent (isOpen_of_resolved hResolved), hIntent, hResolved⟩
    · obtain ⟨intentId, intent, intent', hIntentId, hIntent, hIntentKind, -, hIntent', hResolved⟩ :=
        hJoins.resolves hKind
      obtain ⟨evolved, hEvolved, hEvolves⟩ := hStep.old intentId intent hIntent
      obtain rfl : evolved = intent' := Option.mem_unique hEvolved hIntent'
      exact ⟨intentId, evolved, hIntentId, hIntent', hEvolves.identity.1.trans hIntentKind,
        hResolved⟩
  child id₁ row₁' id₂ row₂' hRow₁' hRow₂' hKind₁ hKind₂ hParent := by
    obtain ⟨row₁, hRow₁, hEvolves₁⟩ | ⟨hAbsent₁, hJoins₁⟩ := hStep.cases hRow₁'
    · obtain ⟨hSameKind₁, -, hSameParent₁⟩ := hEvolves₁.identity
      obtain ⟨row₂, hRow₂, hEvolves₂⟩ | ⟨-, hJoins₂⟩ := hStep.cases hRow₂'
      · obtain ⟨hSameKind₂, -, hSameParent₂⟩ := hEvolves₂.identity
        exact h.child id₁ row₁ id₂ row₂ hRow₁ hRow₂ (hSameKind₁.symm.trans hKind₁)
          (hSameKind₂.symm.trans hKind₂) (hSameParent₁.symm.trans (hParent.trans hSameParent₂))
      · exact absurd (hParent.symm.trans hSameParent₁)
          (h.parent_ne hRow₁ (hSameKind₁.symm.trans hKind₁) hJoins₂ hKind₂)
    · obtain ⟨row₂, hRow₂, hEvolves₂⟩ | ⟨hAbsent₂, -⟩ := hStep.cases hRow₂'
      · obtain ⟨hSameKind₂, -, hSameParent₂⟩ := hEvolves₂.identity
        exact absurd (hParent.trans hSameParent₂)
          (h.parent_ne hRow₂ (hSameKind₂.symm.trans hKind₂) hJoins₁ hKind₁)
      · exact hStep.single id₁ id₂ hAbsent₁ hAbsent₂ (by simp [hRow₁']) (by simp [hRow₂'])

end Exclusive

/-! ## Every move is a step of the ledger -/

section Moves

variable {libs : External} {sys : System} {subject : Subject} {db' : Db} {row : LedgerRow}

theorem requestId_of_checks (h : row.satisfiesChecks libs) (hKind : row.kind ≠ .request) :
    row.requestId = none := by
  have hFormat : row.requestIdFormat := by
    simp only [LedgerRow.satisfiesChecks, Bool.and_eq_true] at h
    tauto
  unfold LedgerRow.requestIdFormat at hFormat
  split at hFormat
  · next hRequest _ => exact absurd hRequest hKind
  · next hRequest _ => exact absurd hRequest hKind
  · exact Option.isNone_iff_eq_none.mp hFormat

theorem Joins.plain {before after : Ledger} (hChecks : row.satisfiesChecks libs)
    (hRequest : row.kind ≠ .request) (hReconciliation : row.kind ≠ .reconciliation) :
    Joins before after row where
  named hKind := absurd hKind hRequest
  unique requestId hSome := by
    rw [requestId_of_checks hChecks hRequest] at hSome
    cases hSome
  resolves hKind := absurd hKind hReconciliation

theorem Rewrites.evolves {db : Db} {key id : Uuid} {account : AccountRow} {row' : LedgerRow}
    (h : Rewrites libs db key account id row row') : row.Evolves row' := by
  refine .inr ⟨?_, _, h.follows⟩
  rcases h.status with hStatus | hStatus <;> simp [isOpen, hStatus]

open Rewritten

theorem Move.ledger (hMove : Move libs sys subject db') : LedgerStep sys.db.ledger db'.ledger := by
  cases hMove with
  | quiet _ hLedger _ _ =>
    rw [hLedger]
    exact (refl _).step
  | opened hPosts hAppends hKind hRequest hUnique hStatus _ _ _ =>
    refine (refl _).append hAppends.fresh (fun _ => rfl) ⟨?_, ?_, ?_⟩
    · intro _
      simp [hRequest]
    · intro requestId hSome
      obtain rfl := Option.mem_unique hRequest hSome
      exact hUnique
    · intro hReconciliation
      simp [hKind] at hReconciliation
  | dispatched hFound hStatus hFollows _ _ =>
    exact (insert hFound (.inr ⟨by simp [isOpen, hStatus], _, hFollows⟩)).step
  | settled _ hRewrites _ _ _ _ | suspended _ hRewrites _ _ =>
    exact (insert hRewrites.found hRewrites.evolves).step
  | @reconciled key id childId account account' row row' child amount _ hRewrites hAppends hStatus'
      hIntent hKind hParent _ _ _ _ =>
    have hNe := hRewrites.ne_of_appends hAppends
    refine (insert hRewrites.found hRewrites.evolves).append hAppends.fresh
      (Table.lookup_insert_comm hNe.symm) ⟨?_, ?_, ?_⟩
    · intro hRequest
      simp [hKind] at hRequest
    · intro requestId hSome
      rw [requestId_of_checks hAppends.checks (by simp [hKind])] at hSome
      cases hSome
    · intro _
      refine ⟨id, row, row', hParent, hRewrites.found, hIntent, ?_, AList.lookup_insert _, hStatus'⟩
      rcases hRewrites.status with hStatus | hStatus <;> simp [isOpen, hStatus]
  | attempted _ hRewrites hAppends _ hKind _ _ =>
    exact (insert hRewrites.found hRewrites.evolves).append hAppends.fresh (fun _ => rfl)
      (.plain hAppends.checks (by simp [hKind]) (by simp [hKind]))
  | flagged _ hAppends hKind _ _ _ _ =>
    exact (refl _).append hAppends.fresh (fun _ => rfl)
      (.plain hAppends.checks (by simp [hKind]) (by simp [hKind]))
  | @rebuilt rebuild auditId account account' audit row now _ _ _ hAppends hKind _ _ _ _ _ _ _ _ _
      _ _ =>
    have hCloses : ∀ row, closesIssue rebuild.command account.budgetAccountingRevision row →
        row.Evolves (closedIssue rebuild.command auditId (account.budgetAccountingRevision + 1) now
          row) := by
      intro row hCloses
      have hOpen : isOpen row := by simp [isOpen, (closesIssue_iff.mp hCloses).2.2.1]
      exact .inr ⟨hOpen, _, ⟨rfl, rfl, rfl, rfl, rfl, rfl⟩⟩
    exact (update hCloses).append hAppends.fresh
      (Table.lookup_update_insert (not_closesIssue_audit hKind))
      (.plain hAppends.checks (by simp [hKind]) (by simp [hKind]))
  | _ => exact (refl _).step

end Moves

/-! ## Charges -/

/-- A row that can charge a request: its intent, or the reconciliation of its intent. -/
def Db.Serves (db : Db) (request : String) (row : LedgerRow) : Prop :=
  row.requestId = some request ∨ row.kind = .reconciliation ∧ ∃ intentId intent,
    row.parentIntentId = some intentId ∧ db.ledger.lookup intentId = some intent ∧
      intent.requestId = some request

/-- The step from `before` to `after` settles the row `id`, which charges a request. -/
structure Settles (request : String) (id : Uuid) (row : LedgerRow) (before after : Db) : Prop where
  found : after.ledger.lookup id = some row
  serves : after.Serves request row
  status : row.status = .settled
  first : ∀ old, before.ledger.lookup id = some old → old.status ≠ .settled

section Charges

variable {libs : External} {sys : System} {subject : Subject} {db db' : Db}

variable {request : String} {row row' : LedgerRow}

theorem Exclusive.settled_unique (h : Exclusive db.ledger) {id id' : Uuid}
    (hRow : db.ledger.lookup id = some row) (hRow' : db.ledger.lookup id' = some row')
    (hServes : db.Serves request row) (hServes' : db.Serves request row')
    (hStatus : row.status = .settled) (hStatus' : row'.status = .settled) : id = id' := by
  -- an intent with a reconciliation is resolved, so it is not settled itself
  have hResolved : ∀ {intentId childId : Uuid} {intent child : LedgerRow},
      db.ledger.lookup intentId = some intent → db.ledger.lookup childId = some child →
      child.kind = .reconciliation → child.parentIntentId = some intentId →
      intent.status ≠ .settled := by
    intro intentId childId intent child hIntent hChild hKind hParentId hSettled
    obtain ⟨parentId, parent, hParentId', hParent, -, hParentStatus⟩ :=
      h.resolved childId child hChild hKind
    obtain rfl : parentId = intentId := Option.mem_unique hParentId' hParentId
    obtain rfl : parent = intent := Option.mem_unique hParent hIntent
    simp [hParentStatus] at hSettled
  rcases hServes with hRequest | ⟨hKind, intentId, intent, hParentId, hIntent, hRequest⟩
  · rcases hServes' with hRequest' | ⟨hKind', intentId', intent', hParentId', hIntent', hRequest'⟩
    · exact h.intent id row id' row' request hRow hRow' hRequest hRequest'
    · obtain rfl := h.intent id row intentId' intent' request hRow hIntent' hRequest hRequest'
      exact absurd hStatus (hResolved hRow hRow' hKind' hParentId')
  · rcases hServes' with hRequest' | ⟨hKind', intentId', intent', hParentId', hIntent', hRequest'⟩
    · obtain rfl := h.intent id' row' intentId intent request hRow' hIntent hRequest' hRequest
      exact absurd hStatus' (hResolved hRow' hRow hKind hParentId)
    · obtain rfl := h.intent intentId intent intentId' intent' request hIntent hIntent' hRequest
        hRequest'
      exact h.child id row id' row' hRow hRow' hKind hKind' (hParentId.trans hParentId'.symm)

theorem LedgerStep.serves (h : LedgerStep db.ledger db'.ledger) (hServes : db.Serves request row) :
    db'.Serves request row := by
  rcases hServes with hRequest | ⟨hKind, intentId, intent, hParentId, hIntent, hRequest⟩
  · exact .inl hRequest
  · obtain ⟨intent', hIntent', hEvolves⟩ := h.old intentId intent hIntent
    exact .inr ⟨hKind, intentId, intent', hParentId, hIntent', hEvolves.identity.2.1.trans hRequest⟩

variable {key : Uuid} {account account' : AccountRow}

theorem used_insert {accounts : AList fun _ : Uuid => AccountRow} {key' : Uuid}
    {found found' : AccountRow} (hAccount : accounts.lookup key = some account)
    (hFound : accounts.lookup key' = some found)
    (hFound' : (accounts.insert key account').lookup key' = some found')
    (hChanged : found'.budgetUsed ≠ found.budgetUsed) :
    key' = key ∧ found = account ∧ found' = account' := by
  obtain ⟨rfl, rfl⟩ | ⟨-, hOld⟩ := Table.lookup_insert_cases hFound'
  · exact ⟨rfl, Option.mem_unique hFound hAccount, rfl⟩
  · obtain rfl := Option.mem_unique hFound hOld
    exact absurd rfl hChanged

theorem kind_of_settled (hChecked : row.kindStatusValid)
    (hOpen : row.status = .pending ∨ row.status = .unresolved) (hChecked' : row'.kindStatusValid)
    (hStatus' : row'.status = .settled) (hKind : row'.kind = row.kind) : row.kind = .request := by
  rcases hOpen with hStatus | hStatus <;> cases hRowKind : row.kind <;>
    simp_all [LedgerRow.kindStatusValid]

/-- **Attribution.** A used amount only moves by the cost of the row that the move settles. -/
theorem Move.charge (hMove : Move libs sys subject db') (h : sys.Invariant)
    (hExclusive : Exclusive sys.db.ledger) (hFound : sys.db.virtualKeys.lookup key = some account)
    (hFound' : db'.virtualKeys.lookup key = some account')
    (hChanged : account'.budgetUsed ≠ account.budgetUsed) :
    ∃ request id row cost, Settles request id row sys.db db' ∧ row.virtualKeyId = key ∧
      row.accountedCostUsd = some cost ∧
      account'.budgetUsed.units = account.budgetUsed.units + cost.units := by
  -- a write of one account that keeps its used amount
  have hKept : ∀ {key' : Uuid} {before after : AccountRow},
      sys.db.virtualKeys.lookup key' = some before →
      (sys.db.virtualKeys.insert key' after).lookup key = some account' →
      after.budgetUsed ≠ before.budgetUsed := by
    intro key' before after hBefore hAfter hSame
    obtain ⟨-, rfl, rfl⟩ := used_insert hBefore hFound hAfter hChanged
    exact hChanged hSame
  have hMoved : sys.db.virtualKeys.lookup key ≠ some account' := by
    intro hSame
    exact hChanged (by rw [Option.mem_unique hSame hFound])
  cases hMove with
  | quiet hAccounts _ _ _ => exact absurd (hAccounts ▸ hFound') hMoved
  | dispatched _ _ _ _ _ => exact absurd hFound' hMoved
  | opened hPosts _ _ _ _ _ hUsed _ _ => exact absurd hUsed (hKept hPosts.found hFound')
  | @settled _ id _ _ row row' amount hPosts hRewrites hStatus' hCost _ hUsed =>
    obtain ⟨rfl, rfl, rfl⟩ := used_insert hPosts.found hFound hFound' hChanged
    have hKind := kind_of_settled (h.consistent.checked id row hRewrites.found) hRewrites.status
      (kindStatusValid_of_checks hRewrites.checks) hStatus' hRewrites.follows.kind
    obtain ⟨request, hRequest⟩ :=
      Option.ne_none_iff_exists'.mp (hExclusive.named id row hRewrites.found hKind)
    refine ⟨request, id, row', amount, ⟨AList.lookup_insert _, ?_, hStatus', ?_⟩, hRewrites.key',
      hCost, hUsed⟩
    · exact .inl (hRewrites.follows.requestId.trans hRequest)
    · intro old hOld
      obtain rfl := Option.some.inj (hRewrites.found.symm.trans hOld)
      exact hRewrites.ne_settled
  | suspended hPosts _ _ hSuspends => exact absurd hSuspends.used (hKept hPosts.found hFound')
  | @reconciled _ id childId _ _ row row' child amount hPosts hRewrites hAppends _ hIntent hKind
      hParent hChild hCost _ hUsed =>
    obtain ⟨rfl, rfl, rfl⟩ := used_insert hPosts.found hFound hFound' hChanged
    have hSettled : child.status = .settled := by
      rcases hChild with hSettled | ⟨-, hZero⟩
      · exact hSettled
      · rw [hZero, Nat.add_zero] at hUsed
        exact absurd (Usd.ext_units hUsed) hChanged
    obtain ⟨request, hRequest⟩ :=
      Option.ne_none_iff_exists'.mp (hExclusive.named id row hRewrites.found hIntent)
    refine ⟨request, childId, child, amount, ⟨?_, ?_, hSettled, ?_⟩, hAppends.virtualKeyId, hCost,
      hUsed⟩
    · exact (AList.lookup_insert_ne (hRewrites.ne_of_appends hAppends).symm).trans
        (AList.lookup_insert _)
    · exact .inr ⟨hKind, id, row', hParent, AList.lookup_insert _,
        hRewrites.follows.requestId.trans hRequest⟩
    · intro old hOld
      rw [hAppends.fresh] at hOld
      cases hOld
  | attempted hPosts _ _ _ _ _ hSuspends =>
    exact absurd hSuspends.used (hKept hPosts.found hFound')
  | flagged hPosts _ _ _ hUsed _ _ => exact absurd hUsed (hKept hPosts.found hFound')
  | checkpointed hAccount _ _ hAccount' =>
    refine absurd ?_ (hKept hAccount hFound')
    rw [hAccount']
  | rebuilt hScan hAccount hCurrent _ _ _ _ _ _ _ hUsed _ _ _ _ _ =>
    -- the scan found the amount that the account stores
    have hSame := ((h.sound _ hScan).current _ hAccount hCurrent).1
    exact absurd (hUsed.trans hSame) (hKept hAccount hFound')
  | edited hPosts hUsed _ _ => exact absurd hUsed (hKept hPosts.found hFound')
  | created hFresh _ _ _ _ _ _ _ =>
    obtain ⟨rfl, -⟩ | ⟨-, hOld⟩ := Table.lookup_insert_cases hFound'
    · rw [hFresh] at hFound
      cases hFound
    · exact absurd hOld hMoved
  | @deleted key' _ _ _ _ =>
    by_cases hKey : key = key'
    · subst hKey
      simp [AList.lookup_erase] at hFound'
    · exact absurd ((AList.lookup_erase_ne hKey).symm.trans hFound') hMoved

end Charges

/-! ## Runs -/

section Runs

variable {libs : External} {sys : System}

theorem perform_ledger (libs : External) (call : Call) :
    LedgerStep sys.db.ledger (perform libs sys call).db.ledger := (perform_move call).ledger

theorem System.Migrated.exclusive (h : sys.Migrated) : Exclusive sys.db.ledger where
  named id row hRow hKind := by
    simp [(h.row hRow).2.1] at hKind
  intent id row _ _ requestId hRow _ hRequest _ := by
    obtain ⟨account, migratedAt, -, hOpening⟩ := h.ledger id row hRow
    rw [hOpening] at hRequest
    cases hRequest
  resolved id row hRow hKind := by
    simp [(h.row hRow).2.1] at hKind
  child id row _ _ hRow _ hKind _ _ := by
    simp [(h.row hRow).2.1] at hKind

theorem Exclusive.run (h : Exclusive sys.db.ledger) (libs : External) (calls : List Call) :
    Exclusive (runCalls libs sys calls).db.ledger := by
  induction calls generalizing sys with
  | nil => exact h
  | cons call calls ih => exact ih (h.step (perform_ledger _ call))

variable {row : LedgerRow}

theorem settled_kept {id : Uuid} (hRow : sys.db.ledger.lookup id = some row)
    (hStatus : row.status = .settled) (libs : External) (calls : List Call) :
    (runCalls libs sys calls).db.ledger.lookup id = some row := by
  induction calls generalizing sys with
  | nil => exact hRow
  | cons call calls ih =>
    exact ih ((perform_ledger _ call).closed_kept hRow (isOpen_of_settled hStatus))

theorem serves_kept {request : String} (hServes : sys.db.Serves request row) (libs : External)
    (calls : List Call) : (runCalls libs sys calls).db.Serves request row := by
  induction calls generalizing sys with
  | nil => exact hServes
  | cons call calls ih => exact ih ((perform_ledger _ call).serves hServes)

/-- **Charging once.** In every run, each change of a used amount is the cost of one row that the
call settles: the intent of a request, or the reconciliation of its intent. No other row of the
request is settled by that call or by any later one, and a settled row, with its cost and its
terminal fingerprint, never changes. -/
theorem charged_once (hMigrated : sys.Migrated) (calls : List Call) (call : Call)
    {before after : System} (hBefore : before = runCalls libs sys calls)
    (hAfter : after = perform libs before call) :
    (∀ key account account', before.db.virtualKeys.lookup key = some account →
      after.db.virtualKeys.lookup key = some account' →
      account'.budgetUsed ≠ account.budgetUsed →
      ∃ request id row cost, Settles request id row before.db after.db ∧ row.virtualKeyId = key ∧
        row.accountedCostUsd = some cost ∧
        account'.budgetUsed.units = account.budgetUsed.units + cost.units) ∧
    (∀ request id row, Settles request id row before.db after.db →
      (∀ id' row', Settles request id' row' before.db after.db → id' = id) ∧
      ∀ middle call' id' row', ¬ Settles request id' row' (runCalls libs after middle).db
        (perform libs (runCalls libs after middle) call').db) ∧
    (∀ id row, before.db.ledger.lookup id = some row → row.status = .settled →
      ∀ later, (runCalls libs before later).db.ledger.lookup id = some row) := by
  have hInvariant : before.Invariant := hBefore ▸ hMigrated.invariant.run libs calls
  have hExclusive : Exclusive before.db.ledger := hBefore ▸ hMigrated.exclusive.run libs calls
  have hExclusive' : Exclusive after.db.ledger := hAfter ▸ hExclusive.step (perform_ledger _ call)
  refine ⟨?_, ?_, ?_⟩
  · intro key account account' hFound hFound' hChanged
    rw [hAfter] at hFound' ⊢
    exact (perform_move call).charge hInvariant hExclusive hFound hFound' hChanged
  · intro request id row hSettles
    refine ⟨fun id' row' hSettles' => ?_, fun middle call' id' row' hSettles' => ?_⟩
    · exact hExclusive'.settled_unique hSettles'.found hSettles.found hSettles'.serves
        hSettles.serves hSettles'.status hSettles.status
    · -- the row settled first is still settled when the second one is
      have hRow := settled_kept hSettles.found hSettles.status libs middle
      have hRow' := (perform_ledger libs call').closed_kept hRow (isOpen_of_settled hSettles.status)
      have hServes := (perform_ledger libs call').serves (serves_kept hSettles.serves libs middle)
      have hLast := (hExclusive'.run libs middle).step (perform_ledger libs call')
      obtain rfl := hLast.settled_unique hRow' hSettles'.found hServes hSettles'.serves
        hSettles.status hSettles'.status
      exact hSettles'.first row hRow hSettles.status
  · intro id row hRow hStatus later
    exact settled_kept hRow hStatus libs later

theorem sampleRun_settlement :
    ((runCalls sampleExternal sampleSystem (sampleCalls.take 3)).db.ledger.lookup 5).map
        (fun row => (row.kind, row.status, row.dispatchState)) =
        some (.request, .pending, some .dispatching) ∧
      ((runCalls sampleExternal sampleSystem (sampleCalls.take 3)).db.virtualKeys.lookup 1).map
        (fun account => account.budgetUsed.units) = some 2000000000000 ∧
      ((perform sampleExternal (runCalls sampleExternal sampleSystem (sampleCalls.take 3))
        (.settle sampleStore (sampleSettle 5 '5') 3000)).db.virtualKeys.lookup 1).map
        (fun account => account.budgetUsed.units) = some 3500000000000 := by
  decide +kernel

/-- The settlement of the sample run charges the intent, and no repetition of it does. -/
theorem charged_once_sample : ∃ before after : System,
    after = perform sampleExternal before (.settle sampleStore (sampleSettle 5 '5') 3000) ∧
      ∃ request id row cost, Settles request id row before.db after.db ∧
        row.accountedCostUsd = some cost ∧ cost.units = 1500000000000 ∧
        ∀ now id' row', ¬ Settles request id' row' after.db
          (perform sampleExternal after (.settle sampleStore (sampleSettle 5 '5') now)).db := by
  obtain ⟨-, hBefore, hAfter⟩ := sampleRun_settlement
  obtain ⟨account, hFound, hUsed⟩ := Option.map_eq_some_iff.mp hBefore
  obtain ⟨account', hFound', hUsed'⟩ := Option.map_eq_some_iff.mp hAfter
  obtain ⟨hCharge, hOnce, -⟩ := charged_once sampleSystem_migrated (sampleCalls.take 3)
    (.settle sampleStore (sampleSettle 5 '5') 3000) rfl rfl
  obtain ⟨request, id, row, cost, hSettles, -, hCost, hSum⟩ :=
    hCharge 1 account account' hFound hFound' (by
      intro hSame
      rw [hSame, hUsed] at hUsed'
      cases hUsed')
  exact ⟨_, _, rfl, request, id, row, cost, hSettles, hCost, by omega,
    fun now => (hOnce request id row hSettles).2 [] _⟩

end Runs

end KongRust.Budget
