import KongRust.Budget.Lifecycle
import KongRust.Enforcement.Reachable

/-!
# Orphaned intents

When a pending intent of the session of a node has an entry in its registry. An entry is given up
where an answer rules the intent out: a creation that was paused or certainly failed, a settlement
that succeeded, a lookup that found nothing to settle.
-/

namespace KongRust.Enforcement

open Budget Transaction

/-! ## Entries for intents -/

def Node.Covers (runtime : SupportedBudgetRuntime) (node : Node) : Prop :=
  ∀ id row, node.sys.db.ledger.lookup id = some row → row.PendingOf runtime.ownerSessionId →
    ∃ requestId data create, row.requestId = some requestId ∧
      node.registry.entry requestId = some data ∧ data.createCommand = some create ∧
      create.intentId = id

/-- The guard of a live entry is held by a request, so a request or a recovery pass settles it. -/
def Node.Attends (node : Node) : Prop :=
  ∀ requestId data, node.registry.entry requestId = some data → data.guardAlive →
    ∃ task request, node.requests.lookup task = some request ∧ request.requestId = requestId ∧
      request.budget.guard ≠ none

def Activity.RulesOut : Activity → Prop
  | .creating _ none => True
  | activity => activity.Acknowledges

/-- Entries for intents, and for every call under way what it may rely on. -/
structure Node.Covered (runtime : SupportedBudgetRuntime) (node : Node) : Prop where
  covers : node.Covers runtime
  requests : ∀ task request activity, node.requests.lookup task = some request →
    request.budget.guard ≠ none → request.activity = some activity → activity.RulesOut →
      ¬ node.sys.db.Pending runtime.ownerSessionId request.requestId
  pass : ∀ pass, node.pass = some pass → pass.activity.Acknowledges →
    ∀ requestId ∈ pass.activity.subject,
      ¬ node.sys.db.Pending runtime.ownerSessionId requestId

/-- A repeated creation without a guard finds an account that it may not charge, and the lookup of
a recovery pass sees the commit of an intent that is pending. -/
def Event.Meets (runtime : SupportedBudgetRuntime) (node : Node) : Event → Prop
  | .execute task _ _ => ∀ request final command, node.requests.lookup task = some request →
    request.activity = some (.replaying final command none) → request.budget.guard = none →
      node.sys.db.admits runtime.store command.virtualKeyId = false
  | .recoverLookup visible _ => visible ∨ ∀ pass snapshot create, node.pass = some pass →
    pass.activity = .lookingUp snapshot create none →
      ¬ node.sys.db.Pending runtime.ownerSessionId snapshot.requestId
  | _ => True

def Node.RunMeets (libs : Libraries) (runtime : SupportedBudgetRuntime) (node : Node) :
    List Event → Prop
  | [] => True
  | event :: events => event.Meets runtime node ∧
    ∀ next, node.step libs runtime event = some next → next.RunMeets libs runtime events

/-! ## What the calls of the store write -/

def AddsNone (session : Uuid) (db db' : Db) : Prop :=
  ∀ id row', db'.ledger.lookup id = some row' → row'.PendingOf session →
    ∃ row, db.ledger.lookup id = some row ∧ row.PendingOf session ∧ row.requestId = row'.requestId

section Writes

variable {libs : Libraries} {session : Uuid} {db db' : Db} {sys : System} {requestId : String}

theorem AddsNone.refl (db : Db) : AddsNone session db db :=
  fun _ row hRow hPending => ⟨row, hRow, hPending, rfl⟩

theorem AddsNone.pending (h : AddsNone session db db')
    (hPending : db'.Pending session requestId) : db.Pending session requestId := by
  obtain ⟨id, row', hRow', hOf, hRequest⟩ := hPending
  obtain ⟨row, hRow, hOld, hSame⟩ := h id row' hRow' hOf
  exact ⟨id, row, hRow, hOld, hSame.trans hRequest⟩

theorem perform_addsNone (libs : Libraries) (call : Call) (h : createsLocally session call = false) :
    AddsNone session sys.db (perform libs.toExternal sys call).db := by
  intro id row' hRow' hPending
  rcases pendingOf_perform hRow' hPending with hOld | ⟨store, command, now, rfl, -, -, hOwner⟩
  · exact hOld
  · simp [createsLocally, hOwner] at h

theorem Reply.runs_addsNone {α : Type} {reply : Reply} {t : Tx α}
    (h : AddsNone session sys.db (sys.run t).db) :
    AddsNone session sys.db (reply.runs t sys).db := by
  cases reply with
  | failed error => exact .refl _
  | _ => exact h

variable {reply : Reply} {store : PgBudgetStore} {now : Nat}

theorem settle_addsNone {command : SettleBudgetIntent} :
    AddsNone session sys.db (reply.runs (settle libs.toExternal store command now) sys).db :=
  Reply.runs_addsNone (perform_addsNone libs (.settle store command now) rfl)

theorem markDispatching_addsNone {command : MarkBudgetDispatching} : AddsNone session sys.db
      (reply.runs (Budget.markDispatching libs.toExternal store command now) sys).db :=
  Reply.runs_addsNone (perform_addsNone libs (.markDispatching store command now) rfl)

variable {command : CreateBudgetIntent}

theorem createIntent_adds {reply : Reply} {store : PgBudgetStore} {now : Nat} {id : Uuid}
    {row' : LedgerRow}
    (hRow' : (reply.runs (createIntent libs.toExternal store command now) sys).db.ledger.lookup id =
      some row') (hPending : row'.PendingOf session) :
    (∃ row, sys.db.ledger.lookup id = some row ∧ row.PendingOf session ∧
      row.requestId = row'.requestId) ∨
    (id = command.intentId ∧ row'.requestId = some command.requestId) := by
  have hRun : (perform libs.toExternal sys (.createIntent store command now)).db.ledger.lookup id =
      some row' → (∃ row, sys.db.ledger.lookup id = some row ∧ row.PendingOf session ∧
        row.requestId = row'.requestId) ∨
      (id = command.intentId ∧ row'.requestId = some command.requestId) := by
    intro hRow
    rcases pendingOf_perform hRow hPending with hOld | ⟨_, _, _, hCall, hId, hRequest, -⟩
    · exact .inl hOld
    · cases hCall
      exact .inr ⟨hId, hRequest⟩
  cases reply with
  | failed error => exact .inl ⟨row', hRow', hPending, rfl⟩
  | _ => exact hRun hRow'

theorem createIntent_addsNone (h : sys.db.admits store command.virtualKeyId = false) :
    AddsNone session sys.db
      (reply.runs (createIntent libs.toExternal store command now) sys).db := by
  refine Reply.runs_addsNone ?_
  have hEnds : Ends (createIntent libs.toExternal store command now) sys.db
      (fun _ db' => db' = sys.db) fun _ => True := createIntent_refused h
  have hRun : (sys.run (createIntent libs.toExternal store command now)).db = sys.db := by
    rcases execute_of_ends hEnds with ⟨intent, db', hExecute, hSame⟩ | ⟨error, hExecute, -⟩
    · exact (congrArg Prod.snd hExecute).trans hSame
    · exact congrArg Prod.snd hExecute
  rw [hRun]
  exact .refl _

theorem not_pending_of_absent (h : db.intentByRequest requestId = none) :
    ¬ db.Pending session requestId := by
  rintro ⟨id, row, hRow, -, hRequest⟩
  exact intentByRequest_eq_none.mp h id row hRow hRequest

theorem createIntent_paused {intent : BudgetIntent}
    (h : reply.answer (createIntent libs.toExternal store command now) sys.db = .ok intent)
    (hPaused : intent.disposition = .paused) :
    ¬ (reply.runs (createIntent libs.toExternal store command now) sys).db.Pending session
      command.requestId := by
  obtain ⟨hSame, hAbsent⟩ := (Reply.of_ok createIntent_answers h).1 hPaused
  rw [hSame]
  exact not_pending_of_absent hAbsent

theorem Reply.runs_of_error {α : Type} {reply : Reply} {t : Tx α} {error : BudgetStoreError}
    (h : reply.answer t sys.db = .error error) (hKind : error.kind ≠ .outcomeUnknown) :
    (reply.runs t sys).db = sys.db := by
  cases reply with
  | failed _ => rfl
  | lost =>
    cases h
    exact absurd rfl hKind
  | answered =>
    unfold Reply.answer Transaction.execute at h
    unfold Reply.runs System.run Transaction.execute
    dsimp only at h ⊢
    split at h
    · cases h
    · rfl

end Writes

/-! ## Steps -/

theorem Activity.Acknowledges.rulesOut {activity : Activity} (h : activity.Acknowledges) :
    activity.RulesOut := by
  cases activity with
  | creating command answer =>
    cases answer with
    | none => trivial
    | some answer => exact h
  | _ => exact h

theorem Await.start_rulesOut {call : Await} (h : call.start.RulesOut) :
    ∃ command, call = .creating command := by
  cases call with
  | creating command => exact ⟨command, rfl⟩
  | _ => cases h

theorem Pass.Sound.subject_dead {libs : Libraries} {registry : ActiveBudgetIntentRegistry}
    {pass : Pass} (h : pass.Sound libs registry) {requestId : String}
    (hSubject : requestId ∈ pass.activity.subject) :
    ∃ data, registry.entry requestId = some data ∧ data.guardAlive = false := by
  have hFits := h.fits
  cases hActivity : pass.activity with
  | idle => simp [hActivity, PassActivity.subject] at hSubject
  | lookingUp snapshot create answer =>
    rw [hActivity] at hFits hSubject
    obtain rfl := List.mem_singleton.mp hSubject
    obtain ⟨⟨-, data, hEntry, hDead, -⟩, -⟩ := hFits
    exact ⟨data, hEntry, hDead⟩
  | settling snapshot command answer =>
    rw [hActivity] at hFits hSubject
    obtain rfl := List.mem_singleton.mp hSubject
    obtain ⟨-, ⟨-, data, hEntry, hDead, -⟩, -⟩ := hFits
    exact ⟨data, hEntry, hDead⟩

theorem not_pending_of_state {row : LedgerRow} {state : BudgetIntentState}
    (h : row.intentState = some state) (hState : state ≠ .prepared ∧ state ≠ .dispatching) :
    row.status ≠ .pending := by
  intro hPending
  unfold LedgerRow.intentState at h
  rw [hPending] at h
  split at h <;> simp_all

section Covering

variable {libs : Libraries} {runtime : SupportedBudgetRuntime} {node next : Node} {db' : Db}
  {requestId : String} {data : ActiveBudgetIntentData} {create : CreateBudgetIntent} {id : Uuid}

section

variable (h : node.Covers runtime)
include h

theorem Node.Covers.intentId_eq (hEntry : node.registry.entry requestId = some data)
    (hCreated : data.createCommand = some create) {row : LedgerRow}
    (hRow : node.sys.db.ledger.lookup id = some row)
    (hPending : row.PendingOf runtime.ownerSessionId) (hRequest : row.requestId = some requestId) :
    create.intentId = id := by
  obtain ⟨requestId', data', create', hRequest', hEntry', hCreated', hId⟩ := h id row hRow hPending
  obtain rfl : requestId' = requestId := Option.mem_unique hRequest' hRequest
  obtain rfl : data' = data := Option.mem_unique hEntry' hEntry
  obtain rfl : create' = create := Option.mem_unique hCreated' hCreated
  exact hId

theorem Node.Covers.not_pending (hEntry : node.registry.entry requestId = some data)
    (hCreated : data.createCommand = some create)
    (hAdds : AddsNone runtime.ownerSessionId node.sys.db db')
    (hClosed : ∃ row, db'.ledger.lookup create.intentId = some row ∧ row.status ≠ .pending) :
    ¬ db'.Pending runtime.ownerSessionId requestId := by
  rintro ⟨id, row', hRow', hPending', hRequest'⟩
  obtain ⟨row, hRow, hPending, hSame⟩ := hAdds id row' hRow' hPending'
  obtain ⟨closed, hLookup, hStatus⟩ := hClosed
  rw [h.intentId_eq hEntry hCreated hRow hPending (hSame.trans hRequest'), hRow'] at hLookup
  cases hLookup
  exact hStatus hPending'.status

theorem Node.Covers.keep (hAdds : AddsNone runtime.ownerSessionId node.sys.db next.sys.db)
    (hEntries : ∀ requestId data create, node.registry.entry requestId = some data →
      data.createCommand = some create → (∃ data', next.registry.entry requestId = some data' ∧
          data'.createCommand = some create) ∨
        ¬ next.sys.db.Pending runtime.ownerSessionId requestId) : next.Covers runtime := by
  intro id row' hRow' hPending'
  obtain ⟨row, hRow, hPending, hSame⟩ := hAdds id row' hRow' hPending'
  obtain ⟨requestId, data, create, hRequest, hEntry, hCreated, hId⟩ := h id row hRow hPending
  rcases hEntries requestId data create hEntry hCreated with ⟨data', hEntry', hCreated'⟩ | hNone
  · exact ⟨requestId, data', create, hSame.symm.trans hRequest, hEntry', hCreated', hId⟩
  · exact absurd ⟨id, row', hRow', hPending', hSame.symm.trans hRequest⟩ hNone

end

variable {task : Nat} {request staged : Request} {outcome : Scope × Progress}

/-- A piece of code of a request gives its entry up only after an answer that rules its intent
out. -/
theorem Node.Covered.runs (h : node.Covered runtime) (hSound : node.Sound libs runtime)
    {mayRelease : Prop} (hRequest : node.requests.lookup task = some request)
    (hRuns : request.Runs libs runtime mayRelease (node.scope request) outcome)
    (hReleased : mayRelease → ∃ activity, request.activity = some activity ∧
      activity.Acknowledges) : (node.proceed task staged outcome).Covered runtime := by
  obtain ⟨request', hNext, hId', -, -, hBudget', hActivity⟩ := proceed_eq node task staged outcome
  rw [hNext]
  have hEntries : ∀ requestId data create, node.registry.entry requestId = some data →
      data.createCommand = some create → (∃ data', outcome.1.registry.entry requestId = some data' ∧
          data'.createCommand = some create) ∨
        ¬ node.sys.db.Pending runtime.ownerSessionId requestId := by
    intro requestId data create hEntry hCreated
    cases hRuns with
    | refuses _ hRefuses =>
      exact .inl ⟨data, (hRefuses.entry requestId).trans hEntry, hCreated⟩
    | goes creation _ hCreation hGoes =>
      by_cases hSame : requestId = request.requestId
      · subst hSame
        by_cases hGuard : request.budget.guard = none
        · exact .inl ⟨data, ((hGoes.free hGuard).2 _).trans hEntry, hCreated⟩
        by_cases hGuard' : outcome.1.budget.guard = none
        · obtain ⟨-, hMay⟩ := hGoes.released hGuard hGuard'
          obtain ⟨activity, hAwaited, hAcknowledges⟩ := hReleased hMay
          exact .inr (h.requests task request activity hRequest hGuard hAwaited
            hAcknowledges.rulesOut)
        · obtain ⟨held, found, -, hHeld, hFound, -, hBelongs⟩ := hSound.held hRequest hGuard
          obtain rfl : data = found := Option.mem_unique hEntry hFound
          obtain rfl : held = creation := Option.mem_unique hHeld hCreation
          obtain rfl : create = held := Option.some.inj (hCreated.symm.trans hBelongs.created)
          rcases hGoes.after with hHolds | hBlank
          · obtain ⟨guard, hSome⟩ := Option.ne_none_iff_exists'.mp hGuard'
            obtain ⟨-, data', hEntry', -, hBelongs'⟩ := hHolds.guard guard hSome
            exact .inl ⟨data', hEntry', hBelongs'.created⟩
          · exact absurd hBlank.guard hGuard'
      · exact .inl ⟨data, (hGoes.frame requestId hSame).trans hEntry, hCreated⟩
  refine ⟨h.covers.keep (.refl _) hEntries, ?_, h.pass⟩
  intro task₀ request₀ activity₀ hRequest₀ hGuard₀ hActivity₀ hRules
  obtain ⟨-, rfl⟩ | ⟨-, hOld⟩ := Table.lookup_insert_cases hRequest₀
  · obtain ⟨call, hAwaits, rfl⟩ := hActivity activity₀ hActivity₀
    obtain ⟨command, rfl⟩ := Await.start_rulesOut hRules
    cases hRuns with
    | refuses _ hRefuses =>
      obtain ⟨result, hReturned⟩ := hRefuses.returned
      rw [hReturned] at hAwaits
      cases hAwaits
    | goes creation _ _ hGoes => exact absurd hAwaits (hGoes.creates command)
  · exact h.requests task₀ request₀ activity₀ hOld hGuard₀ hActivity₀ hRules

theorem Node.Covered.reserves (h : node.Covered runtime)
    (hId : staged.requestId = request.requestId)
    (hReserves : Scope.Reserves libs runtime request.requestId create (node.scope request)
      outcome) : (node.proceed task staged outcome).Covered runtime := by
  obtain ⟨request', hNext, hId', -, -, -, hActivity⟩ := proceed_eq node task staged outcome
  rw [hNext]
  have hAbsent : node.registry.entry request.requestId = none := hReserves.absent
  refine ⟨h.covers.keep (.refl _) fun requestId data create hEntry hCreated => .inl ?_, ?_, h.pass⟩
  · refine ⟨data, (hReserves.frame requestId ?_).trans hEntry, hCreated⟩
    rintro rfl
    rw [hAbsent] at hEntry
    cases hEntry
  · intro task₀ request₀ activity₀ hRequest₀ hGuard₀ hActivity₀ hRules
    obtain ⟨-, rfl⟩ | ⟨-, hOld⟩ := Table.lookup_insert_cases hRequest₀
    · rintro ⟨id, row, hRow, hPending, hRowRequest⟩
      obtain ⟨requestId, data, -, hRequestId, hEntry, -⟩ := h.covers id row hRow hPending
      obtain rfl : requestId = request.requestId :=
        (Option.mem_unique hRequestId hRowRequest).trans (hId'.trans hId)
      rw [hAbsent] at hEntry
      cases hEntry
    · exact h.requests task₀ request₀ activity₀ hOld hGuard₀ hActivity₀ hRules

variable {reply : Reply} {now : Nat} {activity activity' : Activity} {sys' : System}

/-- A call that takes effect adds at most the intent of a request that holds a guard. -/
theorem Node.Sound.executes_adds (h : node.Sound libs runtime) {task : Nat} {request : Request}
    (hRequest : node.requests.lookup task = some request)
    (hActivity : request.activity = some activity)
    (hExecutes : Node.Executes libs runtime node reply now activity sys' activity')
    (hMeets : Event.Meets runtime node (.execute task reply now)) {row' : LedgerRow}
    (hRow' : sys'.db.ledger.lookup id = some row')
    (hPending : row'.PendingOf runtime.ownerSessionId) :
    (∃ row, node.sys.db.ledger.lookup id = some row ∧ row.PendingOf runtime.ownerSessionId ∧
      row.requestId = row'.requestId) ∨
    (request.budget.guard ≠ none ∧ ∃ create, request.budget.createCommand = some create ∧
      id = create.intentId ∧ row'.requestId = some request.requestId) := by
  have hSound := h.requests task request hRequest
  have hFits := hSound.fits activity hActivity
  have hCreates : ∀ {command : CreateBudgetIntent}, request.budget.guard ≠ none →
      request.budget.createCommand = some command →
      (reply.runs (createIntent libs.toExternal runtime.store command now)
        node.sys).db.ledger.lookup id = some row' →
      (∃ row, node.sys.db.ledger.lookup id = some row ∧ row.PendingOf runtime.ownerSessionId ∧
        row.requestId = row'.requestId) ∨
      (request.budget.guard ≠ none ∧ ∃ create, request.budget.createCommand = some create ∧
        id = create.intentId ∧ row'.requestId = some request.requestId) := by
    intro command hGuard hCreated hRow
    rcases createIntent_adds hRow hPending with hOld | ⟨hId, hRowRequest⟩
    · exact .inl hOld
    · rw [(hSound.creation hCreated).1.requestId_eq] at hRowRequest
      exact .inr ⟨hGuard, command, hCreated, hId, hRowRequest⟩
  cases hExecutes with
  | creating command => exact hCreates hFits.1 hFits.2.1 hRow'
  | dispatching command => exact .inl (markDispatching_addsNone id row' hRow' hPending)
  | replaying final command =>
    by_cases hGuard : request.budget.guard = none
    · have hRefused := hMeets request final command hRequest hActivity hGuard
      exact .inl (createIntent_addsNone hRefused id row' hRow' hPending)
    · exact hCreates hGuard hFits.1 hRow'
  | settling final command => exact .inl (settle_addsNone id row' hRow' hPending)

section

variable (h : node.Covered runtime)
include h

/-- A call of another party adds no intent of this session. -/
theorem Node.Covered.environment {call : Call}
    (hForeign : createsLocally runtime.ownerSessionId call = false) :
    ({ node with sys := perform libs.toExternal node.sys call } : Node).Covered runtime := by
  have hAdds : AddsNone runtime.ownerSessionId node.sys.db
      (perform libs.toExternal node.sys call).db := perform_addsNone libs call hForeign
  refine ⟨h.covers.keep hAdds fun _ data _ hEntry hCreated => .inl ⟨data, hEntry, hCreated⟩,
    ?_, ?_⟩
  · intro task request activity hRequest hGuard hActivity hRules hNew
    exact h.requests task request activity hRequest hGuard hActivity hRules (hAdds.pending hNew)
  · intro pass hPass hAcknowledges requestId hSubject hNew
    exact h.pass pass hPass hAcknowledges requestId hSubject (hAdds.pending hNew)

theorem Node.Covered.keeps {request' : Request}
    (hRequest : node.requests.lookup task = some request)
    (hId : request'.requestId = request.requestId) (hBudget : request'.budget = request.budget)
    (hActivity : request'.activity = request.activity ∨ request'.activity = none) :
    (node.setRequest task request').Covered runtime := by
  refine ⟨h.covers, fun task₀ request₀ activity₀ hRequest₀ hGuard₀ hActivity₀ => ?_, h.pass⟩
  obtain ⟨-, rfl⟩ | ⟨-, hOld⟩ := Table.lookup_insert_cases hRequest₀
  · rw [hId]
    rcases hActivity with hSame | hNone
    · exact h.requests task request activity₀ hRequest (hBudget ▸ hGuard₀)
        (hSame.symm.trans hActivity₀)
    · rw [hNone] at hActivity₀
      cases hActivity₀
  · exact h.requests task₀ request₀ activity₀ hOld hGuard₀ hActivity₀

/-- A pass gives an entry up only after an answer that rules its intent out. -/
theorem Node.Covered.visits {pass : Pass} {snapshot : ActiveBudgetIntentSnapshot}
    {queue : List ActiveBudgetIntentSnapshot} {mayRelease : Prop}
    {outcome : ActiveBudgetIntentRegistry × Visit} (hPass : node.pass = some pass)
    (hVisited : Visited libs snapshot.requestId create node.registry)
    (hRecovers : Recovers libs snapshot.requestId create mayRelease node.registry outcome)
    (hReleased : mayRelease → pass.activity.subject = [snapshot.requestId] ∧
      pass.activity.Acknowledges) : (node.visited queue snapshot outcome).Covered runtime := by
  refine ⟨h.covers.keep (.refl _) fun requestId data create₀ hEntry hCreated => ?_, h.requests, ?_⟩
  · by_cases hSame : requestId = snapshot.requestId
    · subst hSame
      rcases hRecovers.after with ⟨-, data', hEntry', -, hBelongs'⟩ | ⟨-, hMay⟩
      · obtain ⟨found, hFound, -, hBelongs⟩ := hVisited.entry
        obtain rfl : data = found := Option.mem_unique hEntry hFound
        obtain rfl : create₀ = create := Option.some.inj (hCreated.symm.trans hBelongs.created)
        exact .inl ⟨data', hEntry', hBelongs'.created⟩
      · obtain ⟨hSubject, hAcknowledges⟩ := hReleased hMay
        exact .inr (h.pass pass hPass hAcknowledges snapshot.requestId (by simp [hSubject]))
    · exact .inl ⟨data, (hRecovers.frame requestId hSame).trans hEntry, hCreated⟩
  · rintro _ ⟨rfl⟩ hAcknowledges
    cases hVisit : outcome.2 <;> simp [hVisit, PassActivity.Acknowledges] at hAcknowledges

section

variable (hSound : node.Sound libs runtime)
include hSound

section

variable (hRequest : node.requests.lookup task = some request)
  (hActivity : request.activity = some activity)
  (hExecutes : Node.Executes libs runtime node reply now activity sys' activity')
include hRequest hActivity hExecutes

/-- An answer that makes a request give its entry up rules its intent out. -/
theorem Node.Covered.executes_rulesOut
    (hGuard : request.budget.guard ≠ none) (hRules : activity'.RulesOut) :
    ¬ sys'.db.Pending runtime.ownerSessionId request.requestId := by
  have hRequestSound := hSound.requests task request hRequest
  have hFits := hRequestSound.fits activity hActivity
  -- a paused answer comes from a ledger without the intent
  have hPaused : ∀ {command : CreateBudgetIntent} {intent : BudgetIntent},
      request.budget.createCommand = some command →
      reply.answer (createIntent libs.toExternal runtime.store command now) node.sys.db =
        .ok intent → intent.disposition = .paused →
      ¬ (reply.runs (createIntent libs.toExternal runtime.store command now) node.sys).db.Pending
        runtime.ownerSessionId request.requestId := by
    intro command intent hCreated hAnswer hDisposition
    rw [← (hRequestSound.creation hCreated).1.requestId_eq]
    exact createIntent_paused hAnswer hDisposition
  cases hExecutes with
  | creating command =>
    have hNone := h.requests task request _ hRequest hGuard hActivity trivial
    cases hAnswer : reply.answer (createIntent libs.toExternal runtime.store command now)
        node.sys.db with
    | error error =>
      rw [hAnswer] at hRules
      rw [Reply.runs_of_error hAnswer hRules]
      exact hNone
    | ok intent =>
      rw [hAnswer] at hRules
      exact hPaused hFits.2.1 hAnswer hRules
  | dispatching command => cases hRules
  | replaying final command =>
    cases hAnswer : reply.answer (createIntent libs.toExternal runtime.store command now)
        node.sys.db with
    | error error =>
      rw [hAnswer] at hRules
      cases hRules
    | ok intent =>
      rw [hAnswer] at hRules
      exact hPaused hFits.1 hAnswer hRules
  | settling final command =>
    cases hAnswer : reply.answer (settle libs.toExternal runtime.store command now)
        node.sys.db with
    | error error =>
      rw [hAnswer] at hRules
      cases hRules
    | ok settlement =>
      obtain ⟨create, hCreated, hSettles⟩ := hFits
      obtain ⟨held, data, -, hHeld, hEntry, -, hBelongs⟩ := hSound.held hRequest hGuard
      obtain rfl : create = held := Option.mem_unique hCreated hHeld
      have hClosed := Reply.of_ok settle_answers hAnswer
      rw [hSettles.intentId] at hClosed
      exact h.covers.not_pending hEntry hBelongs.created settle_addsNone hClosed

theorem Node.Covered.executes (hMeets : Event.Meets runtime node (.execute task reply now)) :
    ({ node with sys := sys' }.setRequest task
      { request with activity := some activity' }).Covered runtime := by
  -- an intent that is new has the live entry of the request
  have hPending : ∀ {requestId : String}, sys'.db.Pending runtime.ownerSessionId requestId →
      node.sys.db.Pending runtime.ownerSessionId requestId ∨
        (request.budget.guard ≠ none ∧ requestId = request.requestId) := by
    rintro requestId ⟨id, row', hRow', hOf, hRowRequest⟩
    rcases hSound.executes_adds hRequest hActivity hExecutes hMeets hRow' hOf with
      ⟨row, hRow, hOld, hSame⟩ | ⟨hGuard, -, -, -, hOwn⟩
    · exact .inl ⟨id, row, hRow, hOld, hSame.trans hRowRequest⟩
    · exact .inr ⟨hGuard, Option.mem_unique hRowRequest hOwn⟩
  refine ⟨fun id row' hRow' hOf => ?_, ?_, ?_⟩
  · rcases hSound.executes_adds hRequest hActivity hExecutes hMeets hRow' hOf with
      ⟨row, hRow, hOld, hSame⟩ | ⟨hGuard, create, hCreated, hId, hOwn⟩
    · obtain ⟨requestId, data, create, hRowRequest, hRest⟩ := h.covers id row hRow hOld
      exact ⟨requestId, data, create, hSame.symm.trans hRowRequest, hRest⟩
    · obtain ⟨held, data, -, hHeld, hEntry, -, hBelongs⟩ := hSound.held hRequest hGuard
      obtain rfl : create = held := Option.mem_unique hCreated hHeld
      exact ⟨request.requestId, data, create, hOwn, hEntry, hBelongs.created, hId.symm⟩
  · intro task₀ request₀ activity₀ hRequest₀ hGuard₀ hActivity₀ hRules
    obtain ⟨-, rfl⟩ | ⟨hTask, hOld⟩ := Table.lookup_insert_cases hRequest₀
    · cases hActivity₀
      have hNone := h.executes_rulesOut hSound hRequest hActivity hExecutes hGuard₀ hRules
      exact hNone
    · intro hNew
      rcases hPending hNew with hBefore | ⟨hGuard, hSame⟩
      · exact h.requests task₀ request₀ activity₀ hOld hGuard₀ hActivity₀ hRules hBefore
      · exact hTask (hSound.apart task₀ request₀ task request hOld hRequest hGuard₀ hGuard hSame)
  · intro pass hPass hAcknowledges requestId hSubject hNew
    rcases hPending hNew with hBefore | ⟨hGuard, rfl⟩
    · exact h.pass pass hPass hAcknowledges requestId hSubject hBefore
    · -- a pass works on an entry without a guard
      obtain ⟨-, live, -, -, hLive, hAlive, -⟩ := hSound.held hRequest hGuard
      obtain ⟨dead, hEntry, hDead⟩ := (hSound.pass pass hPass).subject_dead hSubject
      obtain rfl : dead = live := Option.mem_unique hEntry hLive
      simp [hAlive] at hDead

end

theorem Node.Covered.drops (hRequest : node.requests.lookup task = some request) :
    ({ node with registry := node.released request, requests := node.requests.erase task } :
      Node).Covered runtime := by
  refine ⟨h.covers.keep (.refl _) fun requestId data create hEntry hCreated => .inl ?_, ?_, h.pass⟩
  · rcases hSound.released_entry hRequest requestId with ⟨-, -, hDropped⟩ | ⟨-, hSame⟩
    · rw [hEntry] at hDropped
      exact ⟨_, hDropped, hCreated⟩
    · exact ⟨data, hSame.trans hEntry, hCreated⟩
  · intro task₀ request₀ activity₀ hRequest₀
    have hTask : task₀ ≠ task := by
      rintro rfl
      rw [AList.lookup_erase] at hRequest₀
      cases hRequest₀
    exact h.requests task₀ request₀ activity₀ ((AList.lookup_erase_ne hTask).symm.trans hRequest₀)

/-- A lookup that sees what is committed finds no pending intent where it gives the entry up. -/
theorem Node.Covered.looksUp {pass : Pass} {snapshot : ActiveBudgetIntentSnapshot} {visible : Bool}
    (hPass : node.pass = some pass) (hActivity : pass.activity = .lookingUp snapshot create none)
    (hMeets : Event.Meets runtime node (.recoverLookup visible reply)) :
    ({ node with pass := some ⟨pass.queue, .lookingUp snapshot create (some
      (if visible then reply.answer (lookupIntent runtime.store create.lookup) node.sys.db
        else .ok none))⟩ } : Node).Covered runtime := by
  refine ⟨h.covers, h.requests, ?_⟩
  rintro _ ⟨rfl⟩ hAcknowledges requestId hSubject
  obtain rfl : requestId = snapshot.requestId := by simpa [PassActivity.subject] using hSubject
  have hFits := (hSound.pass pass hPass).fits
  rw [hActivity] at hFits
  obtain ⟨⟨hNamed, data, hEntry, -, hBelongs⟩, -⟩ := hFits
  cases visible with
  | false =>
    rcases hMeets with hVisible | hUnseen
    · cases hVisible
    · exact hUnseen pass snapshot create hPass hActivity
  | true =>
    cases hAnswer : reply.answer (lookupIntent runtime.store create.lookup) node.sys.db with
    | error error => simp [hAnswer, PassActivity.Acknowledges] at hAcknowledges
    | ok found =>
      obtain ⟨-, hAbsent, hFound⟩ := Reply.of_ok lookupIntent_answers hAnswer
      cases found with
      | none =>
        have hNone := hAbsent rfl
        change node.sys.db.intentByRequest create.requestId = none at hNone
        rw [hNamed] at hNone
        exact not_pending_of_absent hNone
      | some record =>
        simp only [hAnswer, if_true, PassActivity.Acknowledges] at hAcknowledges
        obtain ⟨-, row, hRow, hState⟩ := hFound record rfl
        refine h.covers.not_pending hEntry hBelongs.created (.refl _) ⟨row, hRow, ?_⟩
        exact not_pending_of_state hState hAcknowledges

/-- A settlement that succeeds closes its intent. -/
theorem Node.Covered.settles {pass : Pass} {snapshot : ActiveBudgetIntentSnapshot}
    {command : SettleBudgetIntent} (hPass : node.pass = some pass)
    (hActivity : pass.activity = .settling snapshot command none) :
    ({ node with
      sys := reply.runs (settle libs.toExternal runtime.store command now) node.sys
      pass := some ⟨pass.queue, .settling snapshot command (some
        (reply.answer (settle libs.toExternal runtime.store command now) node.sys.db))⟩ } :
      Node).Covered runtime := by
  refine ⟨h.covers.keep settle_addsNone
    fun _ data _ hEntry hCreated => .inl ⟨data, hEntry, hCreated⟩, ?_, ?_⟩
  · intro task request activity hRequest hGuard hAwaited hRules hNew
    exact h.requests task request activity hRequest hGuard hAwaited hRules
      (settle_addsNone.pending hNew)
  · rintro _ ⟨rfl⟩ hAcknowledges requestId hSubject
    obtain rfl : requestId = snapshot.requestId := by simpa [PassActivity.subject] using hSubject
    have hFits := (hSound.pass pass hPass).fits
    rw [hActivity] at hFits
    obtain ⟨create, ⟨-, data, hEntry, -, hBelongs⟩, hSettles⟩ := hFits
    cases hAnswer : reply.answer (settle libs.toExternal runtime.store command now)
        node.sys.db with
    | error error => simp [hAnswer, PassActivity.Acknowledges] at hAcknowledges
    | ok settlement =>
      have hClosed := Reply.of_ok settle_answers hAnswer
      rw [hSettles.intentId] at hClosed
      exact h.covers.not_pending hEntry hBelongs.created settle_addsNone hClosed

theorem Node.Covered.move {event : Event} (hMoves : node.Moves libs runtime event next)
    (hMeets : event.Meets runtime node) : next.Covered runtime := by
  cases hMoves with
  | environment call hForeign => exact h.environment hForeign
  | inspects task requestId virtualKeyId _ =>
    refine ⟨h.covers, fun task₀ request₀ activity₀ hRequest₀ hGuard₀ => ?_, h.pass⟩
    obtain ⟨-, rfl⟩ | ⟨-, hOld⟩ := Table.lookup_insert_cases hRequest₀
    · exact absurd rfl hGuard₀
    · exact h.requests task₀ request₀ activity₀ hOld hGuard₀
  | keeps task request request' hRequest hId hBudget _ hActivity =>
    exact h.keeps hRequest hId hBudget hActivity
  | reserves task request staged create outcome _ hId _ hReserves =>
    exact h.reserves hId hReserves
  | runs task request staged mayRelease outcome hRequest _ _ hRuns hReleased =>
    exact h.runs hSound hRequest hRuns hReleased
  | executes task request reply now activity activity' sys' hRequest hActivity hExecutes =>
    exact h.executes hSound hRequest hActivity hExecutes hMeets
  | drops task request hRequest => exact h.drops hSound hRequest
  | takes requestIds _ | skips snapshot queue _ =>
    refine ⟨h.covers, h.requests, ?_⟩
    rintro _ ⟨rfl⟩ hAcknowledges
    cases hAcknowledges
  | visits pass snapshot queue create mayRelease outcome _ hPass _ _ hVisited hRecovers hReleased =>
    exact h.visits hPass hVisited hRecovers hReleased
  | looksUp pass snapshot create visible reply hPass hActivity =>
    exact h.looksUp hSound hPass hActivity hMeets
  | settles pass snapshot command reply now hPass hActivity =>
    exact h.settles hSound hPass hActivity
  | stops => exact ⟨h.covers, h.requests, by simp⟩

end

end

theorem Node.Initial.covered (h : node.Initial runtime) : node.Covered runtime where
  covers id row hRow hPending := absurd hPending (h.session id row hRow)
  requests task request activity hRequest := by
    rw [h.requests] at hRequest
    cases hRequest
  pass pass hPass := by
    rw [h.pass] at hPass
    cases hPass

theorem Node.Covered.run {events : List Event} {final : Node} (h : node.Covered runtime)
    (hSound : node.Sound libs runtime) (hMeets : node.RunMeets libs runtime events)
    (hRun : node.run libs runtime events = some final) : final.Covered runtime := by
  induction events generalizing node with
  | nil =>
    cases hRun
    exact h
  | cons event events ih =>
    obtain ⟨middle, hStep, hRest⟩ := Option.bind_eq_some_iff.mp hRun
    exact ih (h.move hSound (hSound.moves hStep) hMeets.1) (hSound.step hStep)
      (hMeets.2 middle hStep) hRest

/-- **No orphans.** In every run whose repeated creations without a guard are refused and whose
lookups see what is committed, every pending intent of the session has its entry, and a live entry
has its request. -/
theorem Node.run_covers {events : List Event} {final : Node} (hInitial : node.Initial runtime)
    (hRun : node.run libs runtime events = some final)
    (hMeets : node.RunMeets libs runtime events) : final.Covers runtime ∧ final.Attends :=
  ⟨(hInitial.covered.run hInitial.sound hMeets hRun).covers, (hInitial.sound.run hRun).owned⟩

end Covering

/-! ## A run with an orphan -/

/-- A dollar for a million tokens, since the beginning of 2025. -/
def samplePrice : BudgetUnitPriceSnapshot where
  usdPerMillion := ⟨1, 0, Decimal.inRange_one⟩
  source := "builtin"
  version := "1"
  snapshotDate := 20089
  effectiveFrom := 1735689600
  effectiveTo := none

def samplePricing : BudgetPricingSnapshot :=
  ⟨1, "openai", "gpt-4o", some samplePrice, some samplePrice, none⟩

def samplePriceJson : String :=
  "\x7b\"usd_per_million_decimal\":\"1.000000000000\",\"source\":\"builtin\",\"version\":\"1\"," ++
    "\"snapshot_date\":\"2025-01-01\",\"effective_from\":\"2025-01-01T00:00:00Z\"," ++
    "\"effective_to\":null\x7d"

def samplePricingJson : String :=
  "\x7b\"schema_version\":1,\"provider_type\":\"openai\",\"model\":\"gpt-4o\",\"input\":" ++
    samplePriceJson ++ ",\"output\":" ++ samplePriceJson ++ ",\"max_prompt_tokens\":null\x7d"

def samplePricingDigest : String :=
  "5cc420a4374848e003588d7010e7f882b851d1f346f4a781ab0d79aa4ef5a95c"

/-- The text of which the digest identifies a settlement of the sample intent. -/
def sampleSettlementText (outcome : String) : String :=
  "budget-settle:v1\n" ++ sampleRequest '7' ++ "\n" ++ uuidText 1 ++ "\n" ++ uuidText 7 ++ "\n" ++
    outcome ++ "\nnull"

/-- The digests of the texts of the sample runs. -/
def sampleDigests : List (String × String) :=
  [(samplePricingJson, samplePricingDigest),
    ("intent:v1\n" ++ sampleRequest '7' ++ "\n" ++ uuidText 1 ++ "\n" ++ uuidText 7 ++ "\n" ++
      uuidText 3 ++ "\n" ++ uuidText 4 ++ "\n" ++ samplePricingDigest,
      "a6a29ee0c27e6ddaa804c3afc77856721af2cf06409ab47fa500fda91ec860ac"),
    (sampleSettlementText "not_incurred\n0\nstale_owner_before_dispatch",
      "cf402c65e874cfe6a3a013d99aa518bb3ceec004bcd68a4359b24c13fb1b1fea"),
    (sampleSettlementText "unavailable\nnull\nrequest_lifecycle_cancelled_after_dispatch",
      "34a6c78c924051467f26dfb3566c1071bbe35dc75b2e0f1e88fbfe5420d32182")]

/-- Exact arithmetic: a product or a quotient that does not fit is refused. -/
def sampleBudget : Libraries where
  toExternal := { sampleExternal with
    sha256Hex := fun text => (sampleDigests.lookup text).getD (sampleFingerprint '0') }
  pricingJson snapshot := if snapshot = samplePricing then samplePricingJson else ""
  checkedMul a b :=
    if h : (a.mantissa * b.mantissa).natAbs < Decimal.MANTISSA ∧ a.scale + b.scale ≤ 28 then
      some ⟨a.mantissa * b.mantissa, a.scale + b.scale, h⟩
    else none
  checkedAdd := Decimal.checkedAdd
  checkedDiv a b :=
    if h : a.mantissa.natAbs < Decimal.MANTISSA ∧ a.scale + 6 ≤ 28 then
      if b.mantissa = 1000000 ∧ b.scale = 0 then some ⟨a.mantissa, a.scale + 6, h⟩ else none
    else none
  roundDp12 d := d
  decimalOfInt n := if h : n.natAbs < Decimal.MANTISSA then ⟨n, 0, h, by decide⟩ else .ZERO

def sampleRuntime : SupportedBudgetRuntime := ⟨sampleStore, 3, 4, 120000000000, by decide⟩

def sampleNode : Node where
  sys := perform sampleBudget.toExternal sampleSystem
    (.registerOwner sampleStore ⟨4, 3, 60000000000⟩ 0)
  registry := ⟨8, ∅, 0⟩
  requests := ∅
  pass := none

theorem sampleNode_initial : sampleNode.Initial sampleRuntime where
  registry := rfl
  requests := rfl
  pass := rfl
  session id row hRow hPending := by
    rcases pendingOf_perform hRow hPending with ⟨before, hBefore, hOf, -⟩ | ⟨_, _, _, hCall, -⟩
    · have hKind := (sampleSystem_migrated.row hBefore).2.1
      rw [hOf.kind] at hKind
      cases hKind
    · cases hCall

/-- The answer of the creation is lost and the request is gone: its entry waits for recovery. -/
def abandonedRun : List Event :=
  [.inspected 0 (sampleRequest '7') 1, .hook 0 7 samplePricing, .execute 0 .lost 2000, .resume 0,
    .drop 0]

def limitChange (limit : BudgetLimitMutation) (now : Nat) : Call :=
  .updateAccount sampleStore
    ⟨1, ⟨9, 9⟩, none, .unchanged, .unchanged, .unchanged, .unchanged, limit, none, .unchanged,
      .unchanged⟩ now

/-- The limit is taken away before the hook and is back before the compensator. -/
def orphanRun : List Event :=
  [.inspected 0 (sampleRequest '7') 1, .environment (limitChange .clear 1000),
    .hook 0 7 samplePricing, .execute 0 .answered 2000, .resume 0,
    .environment (limitChange (.set ⟨10, 0, by decide, by decide⟩) 3000), .abort 0,
    .execute 0 .answered 4000]

theorem sampleRuns_end : ((sampleNode.run sampleBudget sampleRuntime abandonedRun).map
        (fun node => (node.sys.db.ledger.lookup 7).map (·.status)) = some (some .pending)) ∧
      ((sampleNode.run sampleBudget sampleRuntime (abandonedRun.take 2)).map
        (fun node => (node.requests.lookup 0).map fun request => match request.activity with
          | some (.replaying _ _ _) => true
          | _ => false) = some (some false)) ∧
      (sampleNode.run sampleBudget sampleRuntime orphanRun).map (fun node =>
        ((node.sys.db.ledger.lookup 7).map fun row => (row.kind, row.status, row.ownerSessionId),
          node.registry.entries.entries.length)) =
        some (some (.request, .pending, some 4), 0) := by
  decide +kernel

theorem Node.run_covers_sample : ∃ final,
    sampleNode.run sampleBudget sampleRuntime abandonedRun = some final ∧
      (final.sys.db.ledger.lookup 7).map (·.status) = some .pending ∧
      final.Covers sampleRuntime := by
  obtain ⟨hRun, hCreating, -⟩ := sampleRuns_end
  have hMeets : sampleNode.RunMeets sampleBudget sampleRuntime abandonedRun := by
    refine ⟨trivial, fun inspected hInspected => ⟨trivial, fun hooked hHooked => ⟨?_, fun _ _ =>
      ⟨trivial, fun _ _ => ⟨trivial, fun _ _ => trivial⟩⟩⟩⟩⟩
    intro request final command hRequest hActivity
    have hTwo : sampleNode.run sampleBudget sampleRuntime (abandonedRun.take 2) = some hooked := by
      simp only [abandonedRun, List.take_succ_cons, List.take_zero, Node.run, hInspected, hHooked,
        Option.bind_eq_bind, Option.bind_some]
    simp [hTwo, hRequest, hActivity] at hCreating
  obtain ⟨final, hFinal, hStatus⟩ := Option.map_eq_some_iff.mp hRun
  exact ⟨final, hFinal, hStatus, (Node.run_covers sampleNode_initial hFinal hMeets).1⟩

/-- The compensator repeats the creation of a request whose guard is gone, and nobody knows the
intent. -/
theorem orphanRun_orphans : sampleNode.Initial sampleRuntime ∧ ∃ final,
    sampleNode.run sampleBudget sampleRuntime orphanRun = some final ∧
      ¬ final.Covers sampleRuntime := by
  obtain ⟨-, -, hRun⟩ := sampleRuns_end
  refine ⟨sampleNode_initial, ?_⟩
  obtain ⟨final, hFinal, hFields⟩ := Option.map_eq_some_iff.mp hRun
  obtain ⟨hLookup, hEntries⟩ := Prod.mk.inj hFields
  obtain ⟨row, hRow, hValues⟩ := Option.map_eq_some_iff.mp hLookup
  obtain ⟨hKind, hRest⟩ := Prod.mk.inj hValues
  obtain ⟨hStatus, hOwner⟩ := Prod.mk.inj hRest
  refine ⟨final, hFinal, fun hCovers => ?_⟩
  obtain ⟨requestId, data, -, -, hEntry, -⟩ := hCovers 7 row hRow ⟨hKind, hStatus, hOwner⟩
  have hEmpty : final.registry.entries = ∅ :=
    Table.eq_empty_of_entries (List.length_eq_zero_iff.mp hEntries)
  unfold ActiveBudgetIntentRegistry.entry at hEntry
  rw [hEmpty] at hEntry
  cases hEntry

end KongRust.Enforcement
